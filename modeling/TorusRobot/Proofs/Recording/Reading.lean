/-
**What reading takes from a source.**

How a source hands out its bytes plays no part in what is read from it, as long as it does not fail.
Reading is looked at from both sides here: which bytes it takes when they are there, and which bytes
must have been there when it succeeds.  The two agree, so the bytes of a value are the only ones
that are read as that value.

Main definitions:

* `TorusRobot.Recording.Source.Lasts` — no read from the source ever fails;
* `TorusRobot.Recording.Source.Takes` — what is read off certain bytes, whatever follows them.

Main results:

* `TorusRobot.Recording.Source.gather_of_le`, `TorusRobot.Recording.Source.gather_of_lt` — what many
  reads bring;
* `TorusRobot.Recording.Source.takes_readHeader`, `TorusRobot.Recording.Source.takes_readFrame?` —
  the bytes of a header or a frame are read as that header or frame;
* `TorusRobot.Recording.Source.pending_of_readHeader`,
  `TorusRobot.Recording.Source.pending_of_readFrame?` — what was read stood there in its own bytes;
* `TorusRobot.Recording.Source.readFrame?_of_nil`,
  `TorusRobot.Recording.Source.pending_of_readFrame?_none` — only the end is read as the end.
-/
import TorusRobot.Proofs.Recording.Writing

set_option relaxedAutoImplicit false
set_option autoImplicit false

namespace TorusRobot.Recording.Source

variable {α β : Type} {s s' : Source}

/-! ### Reads -/

/-- No read from the source ever fails. -/
def Lasts (s : Source) : Prop := s.allowance = none

theorem hand_of_lasts (h : s.Lasts) (n : Nat) :
    s.hand n = (.bytes (s.pending.take n), { s with pending := s.pending.drop n }) := by
  cases s
  simp_all [hand, Lasts]

/-- Some read hands out a part of what is there, and the others hand out nothing. -/
theorem read_of_lasts (h : s.Lasts) {want : Nat} (hw : want ≠ 0) :
    (∃ s', s.read want = (.interrupted, s') ∧ s'.Lasts ∧ s'.pending = s.pending) ∨
      ∃ n s', 1 ≤ n ∧ n ≤ want ∧ s.read want = (.bytes (s.pending.take n), s') ∧ s'.Lasts ∧
        s'.pending = s.pending.drop n := by
  have ha : ¬s.allowance = some 0 := by
    rw [show s.allowance = none from h]
    simp
  unfold read
  rw [if_neg ha]
  split
  · exact Or.inr ⟨want, _, by omega, Nat.le_refl want, hand_of_lasts h want, h, rfl⟩
  · rename_i cues hc
    exact Or.inl ⟨{ s with cues := cues }, rfl, h, rfl⟩
  · rename_i most cues hc
    have h' : ({ s with cues := cues } : Source).Lasts := h
    exact Or.inr ⟨_, _, by omega, by omega, hand_of_lasts h' _, h', rfl⟩

theorem pending_of_hand {n : Nat} {bs : List UInt8} (h : s.hand n = (.bytes bs, s')) :
    s.pending = bs ++ s'.pending := by
  simp only [hand, Prod.mk.injEq, Delivery.bytes.injEq] at h
  obtain ⟨rfl, rfl⟩ := h
  exact (List.take_append_drop _ s.pending).symm

/-- What a read hands out stood at the front. -/
theorem pending_of_read {want : Nat} {bs : List UInt8} (h : s.read want = (.bytes bs, s')) :
    s.pending = bs ++ s'.pending := by
  unfold read at h
  split at h
  · simp at h
  · split at h
    · exact pending_of_hand h
    · simp at h
    · rename_i most cues hc
      exact pending_of_hand (s := { s with cues := cues }) h

theorem pending_of_hand_nil {n : Nat} (hn : n ≠ 0) (ha : s.allowance ≠ some 0)
    (h : s.hand n = (.bytes [], s')) : s.pending = [] := by
  simp only [hand, Prod.mk.injEq, Delivery.bytes.injEq, List.take_eq_nil_iff] at h
  rcases h.1 with h | h
  · cases ha' : s.allowance with
    | none => exact absurd (by simpa [ha'] using h) hn
    | some m =>
        simp only [ha', Nat.min_eq_zero_iff] at h
        simp_all
  · exact h

/-- A read that hands out nothing has come to the end. -/
theorem pending_of_read_nil {want : Nat} (hw : want ≠ 0) (h : s.read want = (.bytes [], s')) :
    s.pending = [] := by
  unfold read at h
  split at h
  · simp at h
  · rename_i ha
    split at h
    · exact pending_of_hand_nil hw ha h
    · simp at h
    · rename_i most cues hc
      exact pending_of_hand_nil (s := { s with cues := cues }) (by omega) ha h

/-- A source that never fails stays one. -/
theorem lasts_of_read {want : Nat} {d : Delivery} (h : s.Lasts) (hr : s.read want = (d, s')) :
    s'.Lasts := by
  unfold read at hr
  split at hr
  · cases hr
    exact h
  · split at hr
    · rw [hand_of_lasts h] at hr
      cases hr
      exact h
    · cases hr
      exact h
    · rename_i most cues hc
      have h' : ({ s with cues := cues } : Source).Lasts := h
      rw [hand_of_lasts h'] at hr
      cases hr
      exact h

/-! ### Gathering -/

/-- Where there are enough bytes, the bytes asked for come, however they are handed out. -/
theorem gather_of_le {want : Nat} (got : List UInt8) (h : s.Lasts)
    (hn : want ≤ s.pending.length) :
    ∃ s', s.gather want got = (.complete (got.reverse ++ s.pending.take want), s') ∧ s'.Lasts ∧
      s'.pending = s.pending.drop want := by
  -- the reads one by one: an interruption takes nothing, and neither a failure nor the end can come
  fun_induction gather s want got with
  | case1 s got => exact ⟨s, by simp, h, by simp⟩
  | case2 s want got hw s₁ hr ih =>
      rcases read_of_lasts h hw with ⟨s₂, e, h₂, hp⟩ | ⟨n, s₂, _, _, e, _⟩
      · rw [hr] at e
        cases e
        rw [← hp] at hn ⊢
        exact ih h₂ hn
      · rw [hr] at e
        cases e
  | case3 s want got hw s₁ hr =>
      rcases read_of_lasts h hw with ⟨s₂, e, _⟩ | ⟨n, s₂, _, _, e, _⟩ <;> (rw [hr] at e; cases e)
  | case4 s want got hw s₁ hr =>
      have hp := pending_of_read_nil hw hr
      simp only [hp, List.length_nil] at hn
      omega
  | case5 s want got hw b bs s₁ hr ih =>
      have hp := pending_of_read hr
      have hb := read_bytes hr
      obtain ⟨s₂, e, h₂, hp₂⟩ := ih (lasts_of_read h hr) (by omega)
      refine ⟨s₂, ?_, h₂, ?_⟩
      · rw [e, hp, List.take_append, List.take_of_length_le hb.2.2]
        simp
      · rw [hp₂, hp, List.drop_append, List.drop_of_length_le hb.2.2, List.nil_append]

/-- Where there are too few bytes, all of them come, however they are handed out. -/
theorem gather_of_lt {want : Nat} (got : List UInt8) (h : s.Lasts)
    (hn : s.pending.length < want) :
    ∃ s', s.gather want got = (.ended (got.reverse ++ s.pending), s') ∧ s'.pending = [] := by
  -- the same reads, but the last of them hands out nothing
  fun_induction gather s want got with
  | case1 s got => omega
  | case2 s want got hw s₁ hr ih =>
      rcases read_of_lasts h hw with ⟨s₂, e, h₂, hp⟩ | ⟨n, s₂, _, _, e, _⟩
      · rw [hr] at e
        cases e
        rw [← hp] at hn ⊢
        exact ih h₂ hn
      · rw [hr] at e
        cases e
  | case3 s want got hw s₁ hr =>
      rcases read_of_lasts h hw with ⟨s₂, e, _⟩ | ⟨n, s₂, _, _, e, _⟩ <;> (rw [hr] at e; cases e)
  | case4 s want got hw s₁ hr =>
      have hp := pending_of_read_nil hw hr
      have hp₁ := pending_of_read hr
      exact ⟨s₁, by simp [hp], by simpa [hp] using hp₁.symm⟩
  | case5 s want got hw b bs s₁ hr ih =>
      have hp := pending_of_read hr
      have hb := read_bytes hr
      obtain ⟨s₂, e, hp₂⟩ := ih (lasts_of_read h hr) (by omega)
      refine ⟨s₂, ?_, hp₂⟩
      rw [e, hp]
      simp

/-- The bytes gathered stood at the front. -/
theorem pending_of_gather {want : Nat} {got bs : List UInt8}
    (h : s.gather want got = (.complete bs, s')) :
    ∃ cs, bs = got.reverse ++ cs ∧ cs.length = want ∧ s.pending = cs ++ s'.pending := by
  fun_induction gather s want got with
  | case1 s got =>
      simp only [Prod.mk.injEq, Gathering.complete.injEq] at h
      obtain ⟨rfl, rfl⟩ := h
      exact ⟨[], by simp, rfl, rfl⟩
  | case2 s want got hw s₁ hr ih =>
      rw [← (read_interrupted hr).2]
      exact ih h
  | case3 => simp at h
  | case4 => simp at h
  | case5 s want got hw b bs s₁ hr ih =>
      have hp := pending_of_read hr
      have hb := read_bytes hr
      obtain ⟨cs, rfl, hl, hp₁⟩ := ih h
      refine ⟨b :: bs ++ cs, by simp, ?_, by rw [hp, hp₁, List.append_assoc]⟩
      rw [List.length_append, hl]
      omega

/-- What is gathered before the end comes is all there was. -/
theorem pending_of_gather_ended {want : Nat} {got bs : List UInt8}
    (h : s.gather want got = (.ended bs, s')) : bs = got.reverse ++ s.pending := by
  fun_induction gather s want got with
  | case1 => simp at h
  | case2 s want got hw s₁ hr ih =>
      rw [← (read_interrupted hr).2]
      exact ih h
  | case3 => simp at h
  | case4 s want got hw s₁ hr =>
      simp only [Prod.mk.injEq, Gathering.ended.injEq] at h
      rw [pending_of_read_nil hw hr, List.append_nil, h.1]
  | case5 s want got hw b bs s₁ hr ih =>
      rw [ih h, pending_of_read hr]
      simp

theorem lasts_gather {want : Nat} {got : List UInt8} (h : s.Lasts) :
    (s.gather want got).2.Lasts := by
  fun_induction gather s want got with
  | case1 => exact h
  | case2 s want got hw s₁ hr ih => exact ih (lasts_of_read h hr)
  | case3 s want got hw s₁ hr => exact lasts_of_read h hr
  | case4 s want got hw s₁ hr => exact lasts_of_read h hr
  | case5 s want got hw b bs s₁ hr ih => exact ih (lasts_of_read h hr)

/-- A source that never fails stays one however much is gathered from it. -/
theorem respected_lasts : Respected fun s s' => s.Lasts → s'.Lasts where
  refl _ h := h
  trans h h' hs := h' (h hs)
  gather _ _ h := lasts_gather h

/-! ### Taking bytes -/

/-- From a source that does not fail, `t` takes `bs` if it stands at the front, whatever follows it,
and answers `a`. -/
def Takes (t : Transfer Source α) (bs : List UInt8) (a : α) : Prop :=
  ∀ (s : Source) (rest : List UInt8), s.Lasts → s.pending = bs ++ rest →
    ∃ s', t s = (.ok a, s') ∧ s'.Lasts ∧ s'.pending = rest

theorem takes_pure (a : α) : Takes (pure a) [] a :=
  fun s _ h hp => ⟨s, rfl, h, hp⟩

theorem takes_ofExcept {e : Except Fault α} {a : α} (h : e = .ok a) :
    Takes (Transfer.ofExcept e) [] a := by
  rw [h]
  exact takes_pure a

/-- What is taken one after another stands there one after another. -/
theorem Takes.bind {t : Transfer Source α} {f : α → Transfer Source β} {bs cs : List UInt8}
    {a : α} {b : β} (ht : Takes t bs a) (hf : Takes (f a) cs b) :
    Takes (t >>= f) (bs ++ cs) b := by
  intro s rest h hp
  rw [List.append_assoc] at hp
  obtain ⟨s₁, e₁, h₁, hp₁⟩ := ht s (cs ++ rest) h hp
  obtain ⟨s₂, e₂, h₂, hp₂⟩ := hf s₁ rest h₁ hp₁
  exact ⟨s₂, by rw [Transfer.bind_of_ok e₁, e₂], h₂, hp₂⟩

/-- What takes no more bytes comes last. -/
theorem Takes.bind_nil {t : Transfer Source α} {f : α → Transfer Source β} {bs : List UInt8}
    {a : α} {b : β} (ht : Takes t bs a) (hf : Takes (f a) [] b) : Takes (t >>= f) bs b := by
  have h := ht.bind hf
  rwa [List.append_nil] at h

theorem takes_readExact (bs : List UInt8) : Takes (readExact bs.length) bs bs := by
  intro s rest h hp
  have hn : bs.length ≤ s.pending.length := by simp [hp]
  obtain ⟨s₁, e, h₁, hp₁⟩ := gather_of_le [] h hn
  refine ⟨s₁, ?_, h₁, by rw [hp₁, hp, List.drop_left]⟩
  rw [readExact, e, hp, List.take_left]
  rfl

theorem takes_readByte (b : UInt8) : Takes readByte [b] b :=
  (takes_readExact [b]).bind_nil (takes_pure b)

theorem takes_readWord32 (n : UInt32) : Takes readWord32 (LittleEndian.word32 n) n := by
  have h := takes_readExact (LittleEndian.word32 n)
  rw [LittleEndian.length_word32] at h
  refine h.bind_nil ?_
  rw [LittleEndian.decode_word32, UInt32.ofNat_toNat]
  exact takes_pure n

theorem takes_readWord64 (n : UInt64) : Takes readWord64 (LittleEndian.word64 n) n := by
  have h := takes_readExact (LittleEndian.word64 n)
  rw [LittleEndian.length_word64] at h
  refine h.bind_nil ?_
  rw [LittleEndian.decode_word64, UInt64.ofNat_toNat]
  exact takes_pure n

/-- Up to the limit, four bytes tell the length of a text. -/
theorem toNat_length_of_fits {text : String} (h : TextFits text) :
    (UInt32.ofNat (Text.Utf8.encode text).length).toNat = (Text.Utf8.encode text).length := by
  have hl : (Text.Utf8.encode text).length ≤ 65536 := h
  rw [UInt32.toNat_ofNat']
  omega

theorem takes_readText {text : String} (h : TextFits text) :
    Takes readText (textBytes text) text := by
  have hn := toNat_length_of_fits h
  have hc : checkLength (Text.Utf8.encode text).length = .ok () := checkLength_of_le h
  refine (takes_readWord32 _).bind ?_
  rw [hn, hc]
  refine (takes_readExact (Text.Utf8.encode text)).bind_nil ?_
  exact takes_ofExcept (by rw [textOf, Text.Utf8.decode_encode])

theorem takes_readProvenance {p : Provenance} (hl : TextFits p.language)
    (hp : TextFits p.platform) (hg : TextFits p.program) (hb : TextFits p.build) :
    Takes readProvenance
      (textBytes p.language ++ (textBytes p.platform ++ (textBytes p.program ++
        textBytes p.build))) p :=
  (takes_readText hl).bind <| (takes_readText hp).bind <| (takes_readText hg).bind <|
    (takes_readText hb).bind_nil (takes_pure p)

/-- The bytes of a header are read as that header. -/
theorem takes_readHeader {h : Header} (hf : h.Fits) : Takes readHeader h.bytes h := by
  obtain ⟨hl, hp, hg, hb⟩ := Header.fits_iff.1 hf
  have hrest := (takes_readProvenance hl hp hg hb).bind
    (f := fun p => do
      let side ← readWord32
      let digest ← readWord64
      return (⟨p, side, digest⟩ : Header))
    ((takes_readWord32 h.side).bind ((takes_readWord64 h.settingsDigest).bind_nil (takes_pure h)))
  simp only [List.append_assoc] at hrest
  refine (takes_readExact magic).bind ?_
  rw [if_pos rfl]
  refine (takes_readByte formatVersion).bind ?_
  rw [if_pos rfl]
  exact hrest

theorem takes_readAction {action : Action} (h : ∀ text ∈ action.texts, TextFits text) :
    Takes readAction action.bytes action := by
  cases action with
  | reset =>
      refine (takes_readByte resetTag).bind_nil ?_
      rw [if_neg (by decide), if_pos rfl]
      exact takes_pure Action.reset
  | command line status =>
      have hl : TextFits line := h line (List.mem_singleton.2 rfl)
      refine (takes_readByte commandTag).bind ?_
      rw [if_pos rfl]
      refine (takes_readText hl).bind ((takes_readByte (statusTag status)).bind_nil ?_)
      exact (takes_ofExcept (statusOfTag_statusTag status)).bind_nil (takes_pure _)

theorem takes_readSeq? (seq : UInt64) : Takes readSeq? (LittleEndian.word64 seq) (some seq) := by
  intro s rest h hp
  have hn : 8 ≤ s.pending.length := by simp [hp]
  obtain ⟨s₁, e, h₁, hp₁⟩ := gather_of_le [] h hn
  have ht : s.pending.take 8 = LittleEndian.word64 seq := by
    rw [hp, List.take_left' (LittleEndian.length_word64 seq)]
  refine ⟨s₁, ?_, h₁, by rw [hp₁, hp, List.drop_left' (LittleEndian.length_word64 seq)]⟩
  simp [readSeq?, e, ht]

/-- The bytes of a frame are read as that frame. -/
theorem takes_readFrame? {f : Frame} (h : f.Fits) : Takes readFrame? f.bytes (some f) := by
  have hbody : Takes (readFrameBody f.seq) (f.action.bytes ++ LittleEndian.word64 f.digest) f :=
    (takes_readAction h).bind ((takes_readWord64 f.digest).bind_nil (takes_pure f))
  exact (takes_readSeq? f.seq).bind (hbody.bind_nil (takes_pure (some f)))

/-! ### What must have been there -/

theorem ofExcept_eq_ok {σ : Type} {e : Except Fault α} {d d' : σ} {a : α}
    (h : Transfer.ofExcept e d = (.ok a, d')) : e = .ok a ∧ d' = d := by
  cases e with
  | ok b =>
      simp only [Transfer.ofExcept, Transfer.pure_apply, Prod.mk.injEq] at h
      exact ⟨h.1, h.2.symm⟩
  | error fault => simp [Transfer.ofExcept] at h

theorem pure_eq_ok {σ : Type} {d d' : σ} {a b : α}
    (h : (pure a : Transfer σ α) d = (.ok b, d')) : a = b ∧ d' = d := by
  simp only [Transfer.pure_apply, Prod.mk.injEq, Except.ok.injEq] at h
  exact ⟨h.1, h.2.symm⟩

theorem fail_ne_ok {σ : Type} {d d' : σ} {fault : Fault} {a : α} :
    (Transfer.fail fault : Transfer σ α) d ≠ (.ok a, d') := by
  simp

theorem pending_of_readExact {n : Nat} {bs : List UInt8} (h : readExact n s = (.ok bs, s')) :
    bs.length = n ∧ s.pending = bs ++ s'.pending := by
  unfold readExact at h
  split at h
  · rename_i cs s₁ e
    cases h
    obtain ⟨ds, rfl, hl, hp⟩ := pending_of_gather e
    exact ⟨hl, hp⟩
  · simp at h
  · simp at h

theorem pending_of_readByte {b : UInt8} (h : readByte s = (.ok b, s')) :
    s.pending = [b] ++ s'.pending := by
  obtain ⟨bs, s₁, e, h⟩ := Transfer.bind_eq_ok h
  obtain ⟨hl, hp⟩ := pending_of_readExact e
  obtain ⟨rfl, rfl⟩ := pure_eq_ok h
  obtain ⟨c, rfl⟩ := List.length_eq_one_iff.1 hl
  exact hp

theorem pending_of_readWord32 {n : UInt32} (h : readWord32 s = (.ok n, s')) :
    s.pending = LittleEndian.word32 n ++ s'.pending := by
  obtain ⟨bs, s₁, e, h⟩ := Transfer.bind_eq_ok h
  obtain ⟨hl, hp⟩ := pending_of_readExact e
  obtain ⟨rfl, rfl⟩ := pure_eq_ok h
  rw [hp, LittleEndian.word32_decode hl]

theorem pending_of_readWord64 {n : UInt64} (h : readWord64 s = (.ok n, s')) :
    s.pending = LittleEndian.word64 n ++ s'.pending := by
  obtain ⟨bs, s₁, e, h⟩ := Transfer.bind_eq_ok h
  obtain ⟨hl, hp⟩ := pending_of_readExact e
  obtain ⟨rfl, rfl⟩ := pure_eq_ok h
  rw [hp, LittleEndian.word64_decode hl]

theorem textOf_eq_ok {bs : List UInt8} {text : String} (h : textOf bs = .ok text) :
    bs = Text.Utf8.encode text := by
  unfold textOf at h
  split at h
  · rename_i t ht
    cases h
    exact (Text.Utf8.encode_of_decode ht).symm
  · cases h

theorem checkLength_eq_ok {n : Nat} (h : checkLength n = .ok ()) : n ≤ textLimit := by
  unfold checkLength at h
  split at h
  · cases h
  · omega

/-- A text that was read stood there with its length, which is within the limit. -/
theorem pending_of_readText {text : String} (h : readText s = (.ok text, s')) :
    TextFits text ∧ s.pending = textBytes text ++ s'.pending := by
  obtain ⟨length, s₁, e₁, h₁⟩ := Transfer.bind_eq_ok h
  obtain ⟨_, s₂, e₂, h₂⟩ := Transfer.bind_eq_ok h₁
  obtain ⟨bs, s₃, e₃, h₃⟩ := Transfer.bind_eq_ok h₂
  have hp₁ := pending_of_readWord32 e₁
  obtain ⟨hc, rfl⟩ := ofExcept_eq_ok e₂
  obtain ⟨hl, hp₃⟩ := pending_of_readExact e₃
  obtain ⟨ht, rfl⟩ := ofExcept_eq_ok h₃
  have hb := textOf_eq_ok ht
  subst hb
  refine ⟨?_, ?_⟩
  · have := checkLength_eq_ok hc
    rwa [← hl] at this
  · rw [hp₁, hp₃, textBytes, hl, UInt32.ofNat_toNat, List.append_assoc]

theorem pending_of_readProvenance {p : Provenance} (h : readProvenance s = (.ok p, s')) :
    (TextFits p.language ∧ TextFits p.platform ∧ TextFits p.program ∧ TextFits p.build) ∧
      s.pending = textBytes p.language ++ (textBytes p.platform ++ (textBytes p.program ++
        (textBytes p.build ++ s'.pending))) := by
  obtain ⟨language, s₁, e₁, h⟩ := Transfer.bind_eq_ok h
  obtain ⟨platform, s₂, e₂, h⟩ := Transfer.bind_eq_ok h
  obtain ⟨program, s₃, e₃, h⟩ := Transfer.bind_eq_ok h
  obtain ⟨build, s₄, e₄, h⟩ := Transfer.bind_eq_ok h
  obtain ⟨rfl, rfl⟩ := pure_eq_ok h
  obtain ⟨hl, hp₁⟩ := pending_of_readText e₁
  obtain ⟨hp, hp₂⟩ := pending_of_readText e₂
  obtain ⟨hg, hp₃⟩ := pending_of_readText e₃
  obtain ⟨hb, hp₄⟩ := pending_of_readText e₄
  exact ⟨⟨hl, hp, hg, hb⟩, by rw [hp₁, hp₂, hp₃, hp₄]⟩

/-- A header that was read stood there in its own bytes. -/
theorem pending_of_readHeader {h : Header} (e : readHeader s = (.ok h, s')) :
    h.Fits ∧ s.pending = h.bytes ++ s'.pending := by
  obtain ⟨start, s₁, e₁, e⟩ := Transfer.bind_eq_ok e
  split at e
  case isFalse => exact absurd e fail_ne_ok
  case isTrue hm =>
    obtain ⟨version, s₂, e₂, e⟩ := Transfer.bind_eq_ok e
    split at e
    case isFalse => exact absurd e fail_ne_ok
    case isTrue hv =>
      obtain ⟨p, s₃, e₃, e⟩ := Transfer.bind_eq_ok e
      obtain ⟨side, s₄, e₄, e⟩ := Transfer.bind_eq_ok e
      obtain ⟨digest, s₅, e₅, e⟩ := Transfer.bind_eq_ok e
      obtain ⟨rfl, rfl⟩ := pure_eq_ok e
      obtain ⟨_, hp₁⟩ := pending_of_readExact e₁
      have hp₂ := pending_of_readByte e₂
      obtain ⟨hf, hp₃⟩ := pending_of_readProvenance e₃
      have hp₄ := pending_of_readWord32 e₄
      have hp₅ := pending_of_readWord64 e₅
      refine ⟨Header.fits_iff.2 hf, ?_⟩
      rw [hp₁, hp₂, hp₃, hp₄, hp₅, hm, hv]
      simp [Header.bytes]

theorem statusOfTag_eq_ok {tag : UInt8} {status : Status} (h : statusOfTag tag = .ok status) :
    tag = statusTag status := by
  unfold statusOfTag at h
  split at h
  · rename_i t ht
    cases h
    simpa [eq_comm] using List.find?_some ht
  · cases h

theorem pending_of_readAction {action : Action} (h : readAction s = (.ok action, s')) :
    (∀ text ∈ action.texts, TextFits text) ∧ s.pending = action.bytes ++ s'.pending := by
  obtain ⟨tag, s₁, e₁, h⟩ := Transfer.bind_eq_ok h
  have hp₁ := pending_of_readByte e₁
  split at h
  case isTrue ht =>
    obtain ⟨line, s₂, e₂, h₂⟩ := Transfer.bind_eq_ok h
    obtain ⟨byte, s₃, e₃, h₃⟩ := Transfer.bind_eq_ok h₂
    obtain ⟨status, s₄, e₄, h₄⟩ := Transfer.bind_eq_ok h₃
    obtain ⟨hs, rfl⟩ := ofExcept_eq_ok e₄
    obtain ⟨rfl, rfl⟩ := pure_eq_ok h₄
    obtain ⟨hl, hp₂⟩ := pending_of_readText e₂
    have hp₃ := pending_of_readByte e₃
    refine ⟨by simpa [Action.texts] using hl, ?_⟩
    rw [hp₁, hp₂, hp₃, ht, statusOfTag_eq_ok hs]
    simp [Action.bytes]
  case isFalse =>
    split at h
    case isTrue ht =>
      obtain ⟨rfl, rfl⟩ := pure_eq_ok h
      exact ⟨by simp [Action.texts], by rw [hp₁, ht, Action.bytes]⟩
    case isFalse => exact absurd h fail_ne_ok

theorem pending_of_readSeq? {seq : UInt64} (h : readSeq? s = (.ok (some seq), s')) :
    s.pending = LittleEndian.word64 seq ++ s'.pending := by
  unfold readSeq? at h
  split at h
  · rename_i bs s₁ e
    cases h
    obtain ⟨cs, rfl, hl, hp⟩ := pending_of_gather e
    simp [hp, LittleEndian.word64_decode hl]
  all_goals simp at h

theorem pending_of_readSeq?_none (h : readSeq? s = (.ok none, s')) : s.pending = [] := by
  unfold readSeq? at h
  split at h
  · simp at h
  · rename_i s₁ e
    have hp := pending_of_gather_ended e
    rwa [List.reverse_nil, List.nil_append, eq_comm] at hp
  all_goals simp at h

/-- A frame that was read stood there in its own bytes. -/
theorem pending_of_readFrame? {f : Frame} (h : readFrame? s = (.ok (some f), s')) :
    f.Fits ∧ s.pending = f.bytes ++ s'.pending := by
  obtain ⟨seq?, s₁, e₁, h⟩ := Transfer.bind_eq_ok h
  cases seq? with
  | none => cases (pure_eq_ok h).1
  | some seq =>
      obtain ⟨g, s₂, e₂, h⟩ := Transfer.bind_eq_ok h
      obtain ⟨he, rfl⟩ := pure_eq_ok h
      cases he
      obtain ⟨action, s₃, e₃, e₂⟩ := Transfer.bind_eq_ok e₂
      obtain ⟨digest, s₄, e₄, e₂⟩ := Transfer.bind_eq_ok e₂
      obtain ⟨rfl, rfl⟩ := pure_eq_ok e₂
      have hp₁ := pending_of_readSeq? e₁
      obtain ⟨hf, hp₃⟩ := pending_of_readAction e₃
      have hp₄ := pending_of_readWord64 e₄
      refine ⟨hf, ?_⟩
      rw [hp₁, hp₃, hp₄]
      simp [Frame.bytes]

/-- Only the end is read as the end. -/
theorem pending_of_readFrame?_none (h : readFrame? s = (.ok none, s')) : s.pending = [] := by
  obtain ⟨seq?, s₁, e₁, h⟩ := Transfer.bind_eq_ok h
  cases seq? with
  | none => exact pending_of_readSeq?_none e₁
  | some seq =>
      obtain ⟨g, s₂, e₂, h⟩ := Transfer.bind_eq_ok h
      cases (pure_eq_ok h).1

/-- The end is read as the end. -/
theorem readFrame?_of_nil (h : s.Lasts) (hp : s.pending = []) :
    (readFrame? s).1 = .ok none := by
  have hn : s.pending.length < 8 := by simp [hp]
  obtain ⟨s₁, e, _⟩ := gather_of_lt [] h hn
  have e' : readSeq? s = (.ok none, s₁) := by simp [readSeq?, e, hp]
  rw [readFrame?, Transfer.bind_of_ok e']
  rfl

end TorusRobot.Recording.Source
