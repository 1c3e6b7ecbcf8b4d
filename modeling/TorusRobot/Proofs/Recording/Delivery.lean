/-
**How the bytes arrive.**

A device may hand out its bytes one at a time or many at once, and it may be interrupted in
between; it may also fail for good behind some of them.  None of this shows in what is read: as
long as the device lasts, every call gives what it gives on the bare bytes, and where the device
fails, a call either gets by with the bytes before the failure, or it is answered by the failure.

Main definitions:

* `TorusRobot.Recording.Delivers`, `TorusRobot.Recording.Source.reads` — the reads that a device
  may answer, and those that a source answers;
* `TorusRobot.Recording.Source.FailsAfter` — the source fails for good behind certain bytes;
* `TorusRobot.Recording.Source.Within`, `TorusRobot.Recording.Source.Beyond` — a transfer that gets
  by with certain bytes, and one that asks for more;
* `TorusRobot.Recording.Source.Punctual` — a transfer that does one or the other;
* `TorusRobot.Recording.Reader.hear` — what the calls on a recording come to.

Main results:

* `TorusRobot.Recording.exists_cues` — sources hand out bytes in every way that there is;
* `TorusRobot.Recording.Source.Punctual.bind` — one punctual transfer after another is punctual;
* `TorusRobot.Recording.Source.punctual_readHeader`,
  `TorusRobot.Recording.Source.punctual_frameAt` — opening a recording, and every call after that;
* `TorusRobot.Recording.delivery_never_shows` — what is read from devices that last, and from
  devices that fail.
-/
import TorusRobot.Proofs.Recording.RoundTrip

set_option relaxedAutoImplicit false
set_option autoImplicit false

namespace TorusRobot.Recording

/-! ### Deliveries -/

/-- What a device that holds `bs`, and fails for good behind `limit` of them if it ever does, may
answer to reads that ask for so many bytes: some of the next bytes, none of them at the end only,
or an interruption. -/
inductive Delivers : List UInt8 → Option Nat → List (Nat × Delivery) → Prop where
  | nil {bs : List UInt8} {limit : Option Nat} : Delivers bs limit []
  | bytes {chunk bs : List UInt8} {limit : Option Nat} {want : Nat} {ds : List (Nat × Delivery)}
      (hne : chunk ≠ []) (hwant : chunk.length ≤ want) (hlimit : ∀ m ∈ limit, chunk.length ≤ m)
      (h : Delivers bs (limit.map fun m => m - chunk.length) ds) :
      Delivers (chunk ++ bs) limit ((want, .bytes chunk) :: ds)
  | ended {limit : Option Nat} {want : Nat} {ds : List (Nat × Delivery)} (hlimit : limit ≠ some 0)
      (h : Delivers [] limit ds) : Delivers [] limit ((want, .bytes []) :: ds)
  | interrupted {bs : List UInt8} {limit : Option Nat} {want : Nat} {ds : List (Nat × Delivery)}
      (hlimit : limit ≠ some 0) (h : Delivers bs limit ds) :
      Delivers bs limit ((want, .interrupted) :: ds)
  | failed {bs : List UInt8} {want : Nat} {ds : List (Nat × Delivery)}
      (h : Delivers bs (some 0) ds) : Delivers bs (some 0) ((want, .failed) :: ds)

/-- What a source answers to reads that ask for so many bytes, one after another. -/
def Source.reads (s : Source) : List Nat → List Delivery
  | [] => []
  | want :: wants => (s.read want).1 :: (s.read want).2.reads wants

/-- **Sources hand out bytes in every way that there is.** -/
theorem exists_cues {bs : List UInt8} {limit : Option Nat} {ds : List (Nat × Delivery)}
    (h : Delivers bs limit ds) :
    ∃ cues, (⟨bs, cues, limit⟩ : Source).reads (ds.map Prod.fst) = ds.map Prod.snd := by
  induction h with
  | nil => exact ⟨[], rfl⟩
  | @bytes chunk bs limit want ds hne hwant hlimit _ ih =>
      obtain ⟨cues, ih⟩ := ih
      have hpos := List.length_pos_iff.2 hne
      have hzero : limit ≠ some 0 := by
        rintro rfl
        exact absurd (hlimit 0 rfl) (by omega)
      have hmin : min want (max chunk.length 1) = chunk.length := by omega
      -- the source is told to hand out as many bytes as the device did
      have hread : (⟨chunk ++ bs, .short chunk.length :: cues, limit⟩ : Source).read want =
          (.bytes chunk, ⟨bs, cues, limit.map fun m => m - chunk.length⟩) := by
        rw [Source.read, if_neg hzero]
        cases limit with
        | none => simp [hmin, Source.hand]
        | some m => simp [hmin, Source.hand, Nat.min_eq_left (hlimit m rfl)]
      refine ⟨.short chunk.length :: cues, ?_⟩
      simp only [List.map_cons, Source.reads, hread, ih]
  | @ended limit want ds hlimit _ ih =>
      obtain ⟨cues, ih⟩ := ih
      have hread : (⟨[], .short 1 :: cues, limit⟩ : Source).read want =
          (.bytes [], ⟨[], cues, limit⟩) := by
        rw [Source.read, if_neg hlimit]
        cases limit <;> simp [Source.hand]
      refine ⟨.short 1 :: cues, ?_⟩
      simp only [List.map_cons, Source.reads, hread, ih]
  | @interrupted bs limit want ds hlimit _ ih =>
      obtain ⟨cues, ih⟩ := ih
      have hread : (⟨bs, .interrupt :: cues, limit⟩ : Source).read want =
          (.interrupted, ⟨bs, cues, limit⟩) := by
        rw [Source.read, if_neg hlimit]
      refine ⟨.interrupt :: cues, ?_⟩
      simp only [List.map_cons, Source.reads, hread, ih]
  | @failed bs want ds _ ih =>
      obtain ⟨cues, ih⟩ := ih
      refine ⟨cues, ?_⟩
      simp only [List.map_cons, Source.reads, Source.read, if_true, ih]

namespace Source

variable {α β : Type} {s s' : Source} {front left tail : List UInt8}

/-! ### Sources that fail -/

/-- The source holds `front` and then `tail`, and fails for good behind `front`. -/
def FailsAfter (s : Source) (front tail : List UInt8) : Prop :=
  s.allowance = some front.length ∧ s.pending = front ++ tail

theorem hand_of_failsAfter (h : s.FailsAfter front tail) (n : Nat) :
    ∃ s', s.hand n = (.bytes (front.take n), s') ∧ s'.FailsAfter (front.drop n) tail := by
  obtain ⟨ha, hp⟩ := h
  have htake : s.pending.take (min n front.length) = front.take n := by
    rw [hp, List.take_append_of_le_length (Nat.min_le_right _ _), ← List.take_take,
      List.take_length]
  have hdrop : s.pending.drop (min n front.length) = front.drop n ++ tail := by
    rw [hp, List.drop_append_of_le_length (Nat.min_le_right _ _)]
    rcases Nat.le_total n front.length with hn | hn
    · rw [Nat.min_eq_left hn]
    · rw [Nat.min_eq_right hn, List.drop_length, List.drop_of_length_le hn]
  refine ⟨(s.hand n).2, ?_, ?_, ?_⟩
  · refine Prod.ext ?_ rfl
    simp only [hand, ha, htake]
  · simp only [hand, ha, htake, Option.map_some, List.length_take, List.length_drop,
      Option.some.injEq]
    omega
  · simp only [hand, ha, hdrop]

/-- A source that fails hands out bytes like any other until it does. -/
theorem read_of_failsAfter (h : s.FailsAfter front tail) {want : Nat} (hw : want ≠ 0)
    (hf : front ≠ []) :
    (∃ s', s.read want = (.interrupted, s') ∧ s'.FailsAfter front tail) ∨
      ∃ n s', 1 ≤ n ∧ n ≤ want ∧ s.read want = (.bytes (front.take n), s') ∧
        s'.FailsAfter (front.drop n) tail := by
  have ha : ¬s.allowance = some 0 := by
    rw [h.1, Option.some.injEq, List.length_eq_zero_iff]
    exact hf
  unfold read
  rw [if_neg ha]
  split
  · obtain ⟨s', e, hs'⟩ := hand_of_failsAfter h want
    exact Or.inr ⟨want, s', by omega, Nat.le_refl want, e, hs'⟩
  · rename_i cues hc
    exact Or.inl ⟨{ s with cues := cues }, rfl, h⟩
  · rename_i most cues hc
    have h' : ({ s with cues := cues } : Source).FailsAfter front tail := h
    obtain ⟨s', e, hs'⟩ := hand_of_failsAfter h' (min want (max most 1))
    exact Or.inr ⟨_, s', by omega, by omega, e, hs'⟩

theorem read_of_failed (h : s.FailsAfter [] tail) (want : Nat) : s.read want = (.failed, s) := by
  have ha : s.allowance = some 0 := h.1
  rw [read, if_pos ha]

/-- A read from a source that fails, by what it brings. -/
theorem failsAfter_of_read (h : s.FailsAfter front tail) {want : Nat} (hw : want ≠ 0)
    {d : Delivery} (hr : s.read want = (d, s')) :
    match d with
    | .interrupted => s'.FailsAfter front tail
    | .failed => front = [] ∧ s'.FailsAfter [] tail
    | .bytes bs => bs ≠ [] ∧ bs.length ≤ want ∧ ∃ rest, front = bs ++ rest ∧
        s'.FailsAfter rest tail := by
  by_cases hf : front = []
  · subst hf
    rw [read_of_failed h] at hr
    cases hr
    exact ⟨rfl, h⟩
  · rcases read_of_failsAfter h hw hf with ⟨s₁, e, h₁⟩ | ⟨n, s₁, hn, hle, e, h₁⟩
    · rw [e] at hr
      cases hr
      exact h₁
    · rw [e] at hr
      cases hr
      refine ⟨?_, ?_, front.drop n, (List.take_append_drop n front).symm, h₁⟩
      · rw [Ne, List.take_eq_nil_iff]
        exact fun hz => hz.elim (by omega) hf
      · rw [List.length_take]
        omega

/-- What stands before the failure is gathered, and asking for more is answered by the failure. -/
theorem gather_of_failsAfter {want : Nat} (got : List UInt8) (h : s.FailsAfter front tail) :
    (want ≤ front.length → ∃ s', s'.FailsAfter (front.drop want) tail ∧
        s.gather want got = (.complete (got.reverse ++ front.take want), s')) ∧
      (front.length < want → ∃ s', s'.FailsAfter [] tail ∧ s.gather want got = (.failed, s')) := by
  -- the reads one by one: the failure comes where the bytes before it are used up
  fun_induction gather s want got generalizing front with
  | case1 s got => exact ⟨fun _ => ⟨s, h, by simp⟩, fun hlt => by omega⟩
  | case2 s want got hw s₁ hr ih => exact ih (failsAfter_of_read h hw hr)
  | case3 s want got hw s₁ hr =>
      obtain ⟨rfl, h₁⟩ := failsAfter_of_read h hw hr
      exact ⟨fun hle => absurd (Nat.le_zero.1 hle) hw, fun _ => ⟨s₁, h₁, rfl⟩⟩
  | case4 s want got hw s₁ hr => exact absurd rfl (failsAfter_of_read h hw hr).1
  | case5 s want got hw b bs s₁ hr ih =>
      obtain ⟨_, hlen, rest, rfl, h₁⟩ := failsAfter_of_read h hw hr
      obtain ⟨hle, hlt⟩ := ih h₁
      rw [List.length_append]
      constructor
      · intro hn
        obtain ⟨s₂, h₂, e⟩ := hle (by omega)
        refine ⟨s₂, ?_, ?_⟩
        · rwa [List.drop_append, List.drop_of_length_le hlen, List.nil_append]
        · rw [e, List.take_append, List.take_of_length_le hlen]
          simp
      · intro hn
        exact hlt (by omega)

/-! ### Getting by with certain bytes -/

/-- The bytes `front` are enough for `t`: whatever stands behind them, the answer is `r`, and what
is left of them is `left`. -/
structure Within (t : Transfer Source α) (front : List UInt8) (r : Except Fault α)
    (left : List UInt8) : Prop where
  lasts : ∀ (s : Source) (rest : List UInt8), s.Lasts → s.pending = front ++ rest →
    ∃ s', t s = (r, s') ∧ s'.Lasts ∧ s'.pending = left ++ rest
  fails : ∀ (s : Source) (tail : List UInt8), s.FailsAfter front tail →
    ∃ s', t s = (r, s') ∧ s'.FailsAfter left tail

/-- The bytes `front` are not enough for `t`: if there are no others, the answer is `r`, and if the
source fails behind them, the failure is the answer. -/
structure Beyond (t : Transfer Source α) (front : List UInt8) (r : Except Fault α) : Prop where
  lasts : ∀ s : Source, s.Lasts → s.pending = front →
    ∃ s', t s = (r, s') ∧ s'.Lasts ∧ s'.pending = []
  fails : ∀ (s : Source) (tail : List UInt8), s.FailsAfter front tail →
    ∃ s', t s = (.error (.device .failed), s') ∧ s'.FailsAfter [] tail

/-- A fault that tells that bytes are lacking. -/
def Lacking : Fault → Prop
  | .device .endOfInput | .malformed (.truncatedSeq _) => True
  | _ => False

/-- An answer that is given for want of bytes. -/
def Cut : Except Fault α → Prop
  | .error fault => Lacking fault
  | .ok _ => False

/-- Certain bytes are either enough for `t` or not, and `n` bytes always are.  The answers that
are in `E` are those that are given for want of bytes. -/
def Punctual (E : Except Fault α → Prop) (n : Nat) (t : Transfer Source α) : Prop :=
  ∀ front : List UInt8,
    (∃ r left, Within t front r left ∧ ¬E r ∧ front.length ≤ left.length + n) ∨
      ∃ r, Beyond t front r ∧ E r ∧ front.length < n

theorem Punctual.mono {E : Except Fault α → Prop} {m n : Nat} {t : Transfer Source α}
    (h : Punctual E m t) (hle : m ≤ n) : Punctual E n t := by
  intro front
  rcases h front with ⟨r, left, hw, hr, hl⟩ | ⟨r, hb, hr, hl⟩
  · exact .inl ⟨r, left, hw, hr, by omega⟩
  · exact .inr ⟨r, hb, hr, by omega⟩

section Chain

variable {t : Transfer Source α} {u v : Transfer Source β} {mid : List UInt8} {r : Except Fault α}
  {r' : Except Fault β}

/-- What the first part leaves is enough for the second. -/
theorem Within.chain (hv : ∀ s s₁, t s = (r, s₁) → v s = u s₁) (ht : Within t front r mid)
    (hu : Within u mid r' left) : Within v front r' left where
  lasts s rest hs hp := by
    obtain ⟨s₁, e, h₁, hp₁⟩ := ht.lasts s rest hs hp
    rw [hv s s₁ e]
    exact hu.lasts s₁ rest h₁ hp₁
  fails s tail hs := by
    obtain ⟨s₁, e, h₁⟩ := ht.fails s tail hs
    rw [hv s s₁ e]
    exact hu.fails s₁ tail h₁

/-- What the first part leaves is not enough for the second. -/
theorem Within.chain_beyond (hv : ∀ s s₁, t s = (r, s₁) → v s = u s₁) (ht : Within t front r mid)
    (hu : Beyond u mid r') : Beyond v front r' where
  lasts s hs hp := by
    obtain ⟨s₁, e, h₁, hp₁⟩ := ht.lasts s [] hs (by rw [hp, List.append_nil])
    rw [hv s s₁ e]
    exact hu.lasts s₁ h₁ (by rw [hp₁, List.append_nil])
  fails s tail hs := by
    obtain ⟨s₁, e, h₁⟩ := ht.fails s tail hs
    rw [hv s s₁ e]
    exact hu.fails s₁ tail h₁

end Chain

theorem within_ofExcept (e : Except Fault α) : Within (Transfer.ofExcept e) front e front where
  lasts s rest hs hp := ⟨s, by cases e <;> rfl, hs, hp⟩
  fails s tail hs := ⟨s, by cases e <;> rfl, hs⟩

theorem Within.bind_error {t : Transfer Source α} (f : α → Transfer Source β) {fault : Fault}
    (ht : Within t front (.error fault) left) : Within (t >>= f) front (.error fault) left :=
  ht.chain (u := Transfer.fail fault) (fun _ _ e => Transfer.bind_of_error e)
    (within_ofExcept (.error fault))

theorem Beyond.bind {t : Transfer Source α} (f : α → Transfer Source β) {fault : Fault}
    (ht : Beyond t front (.error fault)) : Beyond (t >>= f) front (.error fault) where
  lasts s hs hp := by
    obtain ⟨s₁, e, h₁⟩ := ht.lasts s hs hp
    exact ⟨s₁, Transfer.bind_of_error e, h₁⟩
  fails s tail hs := by
    obtain ⟨s₁, e, h₁⟩ := ht.fails s tail hs
    exact ⟨s₁, Transfer.bind_of_error e, h₁⟩

/-- **One punctual transfer after another is punctual.** -/
theorem Punctual.bind {m n : Nat} {t : Transfer Source α} {f : α → Transfer Source β}
    (ht : Punctual Cut m t) (hf : ∀ a, Punctual Cut n (f a)) : Punctual Cut (m + n) (t >>= f) := by
  intro front
  rcases ht front with ⟨r, mid, hw, hr, hl⟩ | ⟨r, hb, hr, hl⟩
  · cases r with
    | error fault => exact .inl ⟨.error fault, mid, hw.bind_error f, hr, by omega⟩
    | ok a =>
        rcases hf a mid with ⟨r, left, hw', hr', hl'⟩ | ⟨r, hb', hr', hl'⟩
        · exact .inl ⟨r, left, hw.chain (fun _ _ e => Transfer.bind_of_ok e) hw', hr', by omega⟩
        · exact .inr ⟨r, hw.chain_beyond (fun _ _ e => Transfer.bind_of_ok e) hb', hr', by omega⟩
  · cases r with
    | error fault => exact .inr ⟨.error fault, hb.bind f, hr, by omega⟩
    | ok a => exact absurd hr id

theorem punctual_ofExcept (n : Nat) {e : Except Fault α} (he : ¬Cut e) :
    Punctual Cut n (Transfer.ofExcept e) := by
  intro front
  exact .inl ⟨e, front, within_ofExcept e, he, Nat.le_add_right _ _⟩

theorem punctual_pure (n : Nat) (a : α) : Punctual Cut n (pure a) :=
  punctual_ofExcept n (e := .ok a) id

theorem punctual_fail (n : Nat) {fault : Fault} (hf : ¬Lacking fault) :
    Punctual Cut n (Transfer.fail fault : Transfer Source α) :=
  punctual_ofExcept n (e := .error fault) hf

/-! ### Reading -/

/-- The bytes that are there are gathered from any source. -/
theorem gather_within {n : Nat} (hn : n ≤ front.length) :
    (∀ (s : Source) rest, s.Lasts → s.pending = front ++ rest → ∃ s',
      s.gather n [] = (.complete (front.take n), s') ∧ s'.Lasts ∧
        s'.pending = front.drop n ++ rest) ∧
    ∀ (s : Source) tail, s.FailsAfter front tail → ∃ s',
      s.gather n [] = (.complete (front.take n), s') ∧ s'.FailsAfter (front.drop n) tail := by
  constructor
  · intro s rest hs hp
    have hle : n ≤ s.pending.length := by
      rw [hp, List.length_append]
      omega
    obtain ⟨s₁, e, h₁, hp₁⟩ := gather_of_le [] hs hle
    rw [hp, List.take_append_of_le_length hn] at e
    rw [hp, List.drop_append_of_le_length hn] at hp₁
    exact ⟨s₁, e, h₁, hp₁⟩
  · intro s tail hs
    obtain ⟨s₁, h₁, e⟩ := (gather_of_failsAfter [] hs).1 hn
    exact ⟨s₁, e, h₁⟩

/-- Where there are too few bytes, the end comes, or else the failure. -/
theorem gather_beyond {n : Nat} (hn : front.length < n) :
    (∀ s : Source, s.Lasts → s.pending = front → ∃ s',
      s.gather n [] = (.ended front, s') ∧ s'.Lasts ∧ s'.pending = []) ∧
    ∀ (s : Source) tail, s.FailsAfter front tail → ∃ s',
      s.gather n [] = (.failed, s') ∧ s'.FailsAfter [] tail := by
  constructor
  · intro s hs hp
    have hlt : s.pending.length < n := by rwa [hp]
    have h₁ : (s.gather n []).2.Lasts := lasts_gather hs
    obtain ⟨s₁, e, hp₁⟩ := gather_of_lt [] hs hlt
    rw [e] at h₁
    rw [hp] at e
    exact ⟨s₁, e, h₁, hp₁⟩
  · intro s tail hs
    obtain ⟨s₁, h₁, e⟩ := (gather_of_failsAfter [] hs).2 hn
    exact ⟨s₁, e, h₁⟩

theorem punctual_readExact (n : Nat) : Punctual Cut n (readExact n) := by
  intro front
  by_cases hn : n ≤ front.length
  · obtain ⟨hlasts, hfails⟩ := gather_within hn
    refine .inl ⟨.ok (front.take n), front.drop n, ⟨?_, ?_⟩, id, ?_⟩
    · intro s rest hs hp
      obtain ⟨s₁, e, h₁⟩ := hlasts s rest hs hp
      exact ⟨s₁, by rw [readExact, e], h₁⟩
    · intro s tail hs
      obtain ⟨s₁, e, h₁⟩ := hfails s tail hs
      exact ⟨s₁, by rw [readExact, e], h₁⟩
    · rw [List.length_drop]
      omega
  · obtain ⟨hlasts, hfails⟩ := gather_beyond (Nat.lt_of_not_le hn)
    refine .inr ⟨.error (.device .endOfInput), ⟨?_, ?_⟩, trivial, by omega⟩
    · intro s hs hp
      obtain ⟨s₁, e, h₁⟩ := hlasts s hs hp
      exact ⟨s₁, by rw [readExact, e], h₁⟩
    · intro s tail hs
      obtain ⟨s₁, e, h₁⟩ := hfails s tail hs
      exact ⟨s₁, by rw [readExact, e], h₁⟩

theorem punctual_readByte : Punctual Cut 1 readByte :=
  (punctual_readExact 1).bind fun bs => punctual_pure 0 (bs.headD 0)

theorem punctual_readWord32 : Punctual Cut 4 readWord32 :=
  (punctual_readExact 4).bind fun _ => punctual_pure 0 _

theorem punctual_readWord64 : Punctual Cut 8 readWord64 :=
  (punctual_readExact 8).bind fun _ => punctual_pure 0 _

/-- A text takes no more bytes than this, its length being a word of four bytes. -/
def textReach : Nat := 4 + UInt32.size

theorem punctual_readText : Punctual Cut textReach readText := by
  refine punctual_readWord32.bind fun length => ?_
  have hcheck : ¬Cut (checkLength length.toNat) := by
    unfold checkLength
    split <;> exact id
  have hbytes := (punctual_readExact length.toNat).mono (Nat.le_of_lt length.toNat_lt)
  have htext (bs : List UInt8) : ¬Cut (textOf bs) := by
    unfold textOf
    split <;> exact id
  have h := (punctual_ofExcept 0 hcheck).bind fun _ =>
    hbytes.bind fun bs => punctual_ofExcept 0 (htext bs)
  rwa [Nat.zero_add] at h

theorem punctual_readProvenance :
    Punctual Cut (textReach + (textReach + (textReach + textReach))) readProvenance :=
  punctual_readText.bind fun _ => punctual_readText.bind fun _ =>
    punctual_readText.bind fun _ => punctual_readText.bind fun _ => punctual_pure 0 _

/-- A header takes no more bytes than this. -/
def headerReach : Nat := 4 + (1 + (textReach + (textReach + (textReach + textReach)) + (4 + 8)))

/-- Opening a recording. -/
theorem punctual_readHeader : Punctual Cut headerReach readHeader := by
  refine (punctual_readExact 4).bind fun start => ?_
  split
  · refine punctual_readByte.bind fun version => ?_
    split
    · exact punctual_readProvenance.bind fun _ => punctual_readWord32.bind fun _ =>
        punctual_readWord64.bind fun _ => punctual_pure 0 _
    · exact punctual_fail _ id
  · exact punctual_fail _ id

theorem punctual_readAction : Punctual Cut (1 + (textReach + 1)) readAction := by
  refine punctual_readByte.bind fun tag => ?_
  have hstatus (b : UInt8) : ¬Cut (statusOfTag b) := by
    unfold statusOfTag
    split <;> exact id
  split
  · exact punctual_readText.bind fun line => punctual_readByte.bind fun b =>
      (punctual_ofExcept 0 (hstatus b)).bind fun _ => punctual_pure 0 _
  · split
    · exact punctual_pure _ _
    · exact punctual_fail _ id

/-- A frame takes no more bytes than this. -/
def frameReach : Nat := 8 + (1 + (textReach + 1) + 8)

theorem punctual_readFrameBody (seq : UInt64) :
    Punctual Cut (1 + (textReach + 1) + 8) (readFrameBody seq) :=
  punctual_readAction.bind fun _ => punctual_readWord64.bind fun _ => punctual_pure 0 _

/-! ### Frames -/

/-- A call for a frame that comes to the end, or that is answered for want of bytes. -/
def Ended (r : Except Fault (Option Frame)) : Prop := r = .ok none ∨ Cut r

/-- How the bytes of a sequence number end if there are not enough of them. -/
def seqEnding (front : List UInt8) : Except Fault (Option UInt64) :=
  if front = [] then .ok none else .error (.malformed (.truncatedSeq front.length))

theorem within_readSeq? (hn : 8 ≤ front.length) :
    Within readSeq? front (.ok (some (UInt64.ofNat (LittleEndian.decode (front.take 8)))))
      (front.drop 8) where
  lasts s rest hs hp := by
    obtain ⟨s₁, e, h₁⟩ := (gather_within hn).1 s rest hs hp
    exact ⟨s₁, by rw [readSeq?, e], h₁⟩
  fails s tail hs := by
    obtain ⟨s₁, e, h₁⟩ := (gather_within hn).2 s tail hs
    exact ⟨s₁, by rw [readSeq?, e], h₁⟩

theorem beyond_readSeq? (hn : front.length < 8) : Beyond readSeq? front (seqEnding front) where
  lasts s hs hp := by
    obtain ⟨s₁, e, h₁⟩ := (gather_beyond hn).1 s hs hp
    refine ⟨s₁, ?_, h₁⟩
    rw [readSeq?, e, seqEnding]
    cases front <;> rfl
  fails s tail hs := by
    obtain ⟨s₁, e, h₁⟩ := (gather_beyond hn).2 s tail hs
    exact ⟨s₁, by rw [readSeq?, e], h₁⟩

/-- Too few bytes for a sequence number are too few for a frame. -/
theorem beyond_readFrame? (hn : front.length < 8) :
    Beyond readFrame? front ((seqEnding front).map fun _ => none) where
  lasts s hs hp := by
    obtain ⟨s₁, e, h₁⟩ := (beyond_readSeq? hn).lasts s hs hp
    refine ⟨s₁, ?_, h₁⟩
    unfold seqEnding at e ⊢
    split at e
    · rename_i hnil
      rw [readFrame?, Transfer.bind_of_ok e, if_pos hnil]
      rfl
    · rename_i hnil
      rw [readFrame?, Transfer.bind_of_error e, if_neg hnil]
      rfl
  fails s tail hs := by
    obtain ⟨s₁, e, h₁⟩ := (beyond_readSeq? hn).fails s tail hs
    exact ⟨s₁, Transfer.bind_of_error e, h₁⟩

theorem ended_seqEnding (front : List UInt8) : Ended ((seqEnding front).map fun _ => none) := by
  unfold seqEnding
  split
  · exact .inl rfl
  · exact .inr trivial

/-- A call for a frame. -/
theorem punctual_readFrame? : Punctual Ended frameReach readFrame? := by
  intro front
  by_cases hn : front.length < 8
  · refine .inr ⟨_, beyond_readFrame? hn, ended_seqEnding front, ?_⟩
    rw [frameReach]
    omega
  · -- the sequence number is there, and the rest of the frame never comes to a clean end
    have hseq := within_readSeq? (Nat.le_of_not_lt hn)
    have hlen : (front.drop 8).length + 8 = front.length := by
      rw [List.length_drop]
      omega
    generalize UInt64.ofNat (LittleEndian.decode (front.take 8)) = seq at hseq
    have hframe := (punctual_readFrameBody seq).bind fun frame => punctual_pure 0 (some frame)
    have hbind (s s₁ : Source) (e : readSeq? s = (.ok (some seq), s₁)) :
        readFrame? s = (readFrameBody seq >>= fun frame => pure (some frame)) s₁ := by
      rw [readFrame?, Transfer.bind_of_ok e]
    rcases hframe (front.drop 8) with ⟨r, left, hw, hr, hl⟩ | ⟨r, hb, hr, hl⟩
    · refine .inl ⟨r, left, hseq.chain hbind hw, ?_, ?_⟩
      · rintro (rfl | hcut)
        · obtain ⟨s', e, _⟩ := hw.lasts ⟨front.drop 8 ++ [], [], none⟩ [] rfl rfl
          obtain ⟨f, s₁, _, e⟩ := Transfer.bind_eq_ok e
          cases (pure_eq_ok e).1
        · exact hr hcut
      · rw [frameReach]
        omega
    · refine .inr ⟨r, hseq.chain_beyond hbind hb, .inr hr, ?_⟩
      rw [frameReach]
      omega

/-- The call for a frame that comes after `i` others, whatever these came to. -/
def frameAt : Nat → Transfer Source (Option Frame)
  | 0 => readFrame?
  | i + 1 => fun s => readFrame? (frameAt i s).2

/-- **Every call for a frame**: once the bytes are used up, there are not enough for any other. -/
theorem punctual_frameAt (i : Nat) : Punctual Ended ((i + 1) * frameReach) (frameAt i) := by
  induction i with
  | zero => exact punctual_readFrame?.mono (Nat.le_of_eq (Nat.one_mul _).symm)
  | succ i ih =>
      intro front
      have hsum : (i + 1 + 1) * frameReach = (i + 1) * frameReach + frameReach := Nat.succ_mul _ _
      have hchain (r : Except Fault (Option Frame)) (s s₁ : Source) (e : frameAt i s = (r, s₁)) :
          frameAt (i + 1) s = readFrame? s₁ := by
        show readFrame? (frameAt i s).2 = readFrame? s₁
        rw [e]
      rcases ih front with ⟨r, mid, hw, _, hl⟩ | ⟨r, hb, _, hl⟩
      · rcases punctual_readFrame? mid with ⟨r', left, hw', hr', hl'⟩ | ⟨r', hb', hr', hl'⟩
        · exact .inl ⟨r', left, hw.chain (hchain r) hw', hr', by omega⟩
        · exact .inr ⟨r', hw.chain_beyond (hchain r) hb', hr', by omega⟩
      · have hnil : Beyond readFrame? [] (.ok none) := beyond_readFrame? (by decide)
        refine .inr ⟨.ok none, ⟨?_, ?_⟩, .inl rfl, by omega⟩
        · intro s hs hp
          obtain ⟨s₁, e, h₁, hp₁⟩ := hb.lasts s hs hp
          rw [hchain r s s₁ e]
          exact hnil.lasts s₁ h₁ hp₁
        · intro s tail hs
          obtain ⟨s₁, e, h₁⟩ := hb.fails s tail hs
          rw [hchain _ s s₁ e]
          exact hnil.fails s₁ tail h₁

/-- Among devices that last, only the bytes count. -/
theorem Punctual.agree {E : Except Fault α → Prop} {n : Nat} {t : Transfer Source α}
    (h : Punctual E n t) (hs : s.Lasts) (hs' : s'.Lasts) (hp : s.pending = s'.pending) :
    (t s).1 = (t s').1 ∧ (t s).2.pending = (t s').2.pending ∧ (t s).2.Lasts ∧ (t s').2.Lasts := by
  rcases h s'.pending with ⟨r, left, hw, _⟩ | ⟨r, hb, _⟩
  · obtain ⟨s₁, e₁, h₁, hp₁⟩ := hw.lasts s [] hs (by rw [hp, List.append_nil])
    obtain ⟨s₂, e₂, h₂, hp₂⟩ := hw.lasts s' [] hs' (by rw [List.append_nil])
    rw [e₁, e₂]
    exact ⟨rfl, hp₁.trans hp₂.symm, h₁, h₂⟩
  · obtain ⟨s₁, e₁, h₁, hp₁⟩ := hb.lasts s hs hp
    obtain ⟨s₂, e₂, h₂, hp₂⟩ := hb.lasts s' hs' rfl
    rw [e₁, e₂]
    exact ⟨rfl, hp₁.trans hp₂.symm, h₁, h₂⟩

/-- Certain bytes are enough for `t`, or else an answer is given for want of bytes that is not given
if there are more. -/
def Decided (E : Except Fault α → Prop) (t : Transfer Source α) (front : List UInt8) : Prop :=
  (∃ r left, Within t front r left) ∨
    ∃ r, Beyond t front r ∧ E r ∧
      ∃ rest, ∀ s : Source, s.Lasts → s.pending = front ++ rest → ¬E (t s).1

theorem Punctual.decided {E : Except Fault α → Prop} {n : Nat} {t : Transfer Source α}
    (h : Punctual E n t) (front : List UInt8) : Decided E t front := by
  rcases h front with ⟨r, left, hw, _⟩ | ⟨r, hb, hr, _⟩
  · exact .inl ⟨r, left, hw⟩
  · refine .inr ⟨r, hb, hr, List.replicate n 0, fun s hs hp => ?_⟩
    -- there are `n` bytes and more now, so they are enough
    rcases h (front ++ List.replicate n 0) with ⟨r, left, hw, hr, _⟩ | ⟨r, _, _, hl⟩
    · obtain ⟨s₁, e, _⟩ := hw.lasts s [] hs (by rw [hp, List.append_nil])
      rw [e]
      exact hr
    · rw [List.length_append, List.length_replicate] at hl
      omega

theorem Decided.chain {E : Except Fault β → Prop} {t : Transfer Source α} {u v : Transfer Source β}
    {mid : List UInt8} {r : Except Fault α} (hv : ∀ s s₁, t s = (r, s₁) → v s = u s₁)
    (ht : Within t front r mid) (hu : Decided E u mid) : Decided E v front := by
  rcases hu with ⟨r', left, hw⟩ | ⟨r', hb, hr, rest, hrest⟩
  · exact .inl ⟨r', left, ht.chain hv hw⟩
  · refine .inr ⟨r', ht.chain_beyond hv hb, hr, rest, fun s hs hp => ?_⟩
    obtain ⟨s₁, e, h₁, hp₁⟩ := ht.lasts s rest hs hp
    rw [hv s s₁ e]
    exact hrest s₁ h₁ hp₁

end Source

/-! ### All the calls -/

namespace Reader

/-- What a call on a recording answers: the header when it is opened, and then frame after frame or
the end. -/
inductive Answer where
  | header (h : Header)
  | frame? (f? : Option Frame)
deriving DecidableEq, Repr

/-- The reader after it was asked for `i` frames. -/
def after (r : Reader) : Nat → Reader
  | 0 => r
  | i + 1 => (r.after i).next.2

theorem after_next (r : Reader) (i : Nat) : r.next.2.after i = r.after (i + 1) := by
  induction i with
  | zero => rfl
  | succ i ih => rw [after, ih, ← after]

/-- What the calls on a recording come to, and the bytes that are unread after each: call `0` opens
the recording, and every other one asks for the next frame, if there is a reader to ask. -/
def hear (s : Source) : Nat → Option (Except Fault Answer × List UInt8)
  | 0 => some ((ofSource s).map fun r => .header r.header, (Source.readHeader s).2.pending)
  | i + 1 =>
    match ofSource s with
    | .ok r => some ((r.after i).next.1.map .frame?, (r.after i).next.2.source.pending)
    | .error _ => none

theorem next_after (r : Reader) (i : Nat) :
    (r.after i).next.1 = (Source.frameAt i r.source).1 ∧
      (r.after i).next.2.source = (Source.frameAt i r.source).2 := by
  induction i with
  | zero => exact ⟨r.next_eq.1, r.next_eq.2.1⟩
  | succ i ih =>
      obtain ⟨h₁, h₂, _⟩ := (r.after (i + 1)).next_eq
      rw [after, ih.2] at h₁ h₂
      exact ⟨h₁, h₂⟩

variable {s s₁ : Source} {i : Nat}

theorem hear_zero (s : Source) :
    hear s 0 = some ((Source.readHeader s).1.map .header, (Source.readHeader s).2.pending) := by
  rw [hear, ofSource]
  split <;> simp_all [Except.map]

theorem hear_succ_of_ok {h : Header} (e : Source.readHeader s = (.ok h, s₁)) (i : Nat) :
    hear s (i + 1) =
      some ((Source.frameAt i s₁).1.map .frame?, (Source.frameAt i s₁).2.pending) := by
  obtain ⟨h₁, h₂⟩ := next_after { source := s₁, header := h } i
  rw [hear, ofSource, e]
  simp only [h₁, h₂]

theorem hear_succ_of_error {fault : Fault} (e : Source.readHeader s = (.error fault, s₁))
    (i : Nat) : hear s (i + 1) = none := by
  rw [hear, ofSource, e]

/-- **Among devices that last, only the bytes count**, in every call. -/
theorem hear_of_lasts {s' : Source} (hs : s.Lasts) (hs' : s'.Lasts)
    (hp : s.pending = s'.pending) (i : Nat) : hear s i = hear s' i := by
  obtain ⟨hr, hp₁, h₁, h₁'⟩ := Source.punctual_readHeader.agree hs hs' hp
  cases i with
  | zero => rw [hear_zero, hear_zero, hr, hp₁]
  | succ i =>
      cases e : (Source.readHeader s').1 with
      | error fault =>
          rw [hear_succ_of_error (Prod.ext (hr.trans e) rfl),
            hear_succ_of_error (Prod.ext e rfl)]
      | ok h =>
          obtain ⟨hf, hp₂, _⟩ := (Source.punctual_frameAt i).agree h₁ h₁' hp₁
          rw [hear_succ_of_ok (Prod.ext (hr.trans e) rfl), hear_succ_of_ok (Prod.ext e rfl), hf,
            hp₂]

/-- The first `n` bytes are enough for a call: whatever stands behind them, it answers the same. -/
def NeedsOnly (bs : List UInt8) (n i : Nat) : Prop :=
  ∀ rest : List UInt8, (hear { pending := bs.take n ++ rest } i).map Prod.fst =
    (hear { pending := bs } i).map Prod.fst

/-- The answer of a device that failed. -/
def lost : Except Fault Answer := .error (.device .failed)

theorem failsAfter_take {bs : List UInt8} {n : Nat} (hn : n ≤ bs.length) (cues : List Cue) :
    (⟨bs, cues, some n⟩ : Source).FailsAfter (bs.take n) (bs.drop n) := by
  refine ⟨?_, (List.take_append_drop n bs).symm⟩
  rw [List.length_take, Nat.min_eq_left hn]

theorem map_injective {α : Type} {f : α → Answer} (hf : ∀ a b, f a = f b → a = b)
    {x y : Except Fault α} (h : x.map f = y.map f) : x = y := by
  cases x with
  | error fault =>
      cases y with
      | error fault' => rw [show fault = fault' from Except.error.inj h]
      | ok b => cases h
  | ok a =>
      cases y with
      | error fault' => cases h
      | ok b => rw [hf a b (Except.ok.inj h)]

/-- A call that is a transfer for which the bytes before the failure are enough or not gives what it
gives on the bare bytes, if these are all it needs, and the failure otherwise. -/
theorem hear_of_decided {α : Type} {E : Except Fault α → Prop} {t : Transfer Source α}
    {f : α → Answer} {bs : List UInt8} {n : Nat} (cues : List Cue) (hn : n ≤ bs.length)
    (hf : ∀ a b, f a = f b → a = b) (ht : Source.Decided E t (bs.take n))
    (hlasts : ∀ (s : Source) rest, s.Lasts → s.pending = bs.take n ++ rest →
      hear s i = some ((t s).1.map f, (t s).2.pending))
    (hfails : ∀ (s : Source) tail, s.FailsAfter (bs.take n) tail →
      hear s i = some ((t s).1.map f, (t s).2.pending)) :
    (NeedsOnly bs n i → hear ⟨bs, cues, some n⟩ i = hear { pending := bs } i) ∧
    (¬NeedsOnly bs n i → (hear ⟨bs, cues, some n⟩ i).map Prod.fst = some lost) := by
  have hbs : bs = bs.take n ++ bs.drop n := (List.take_append_drop n bs).symm
  have hsource := failsAfter_take hn cues
  rcases ht with ⟨r, left, hw⟩ | ⟨r, hb, hr, rest, hrest⟩
  · have hplain (s : Source) (rest : List UInt8) (hs : s.Lasts)
        (hp : s.pending = bs.take n ++ rest) : hear s i = some (r.map f, left ++ rest) := by
      obtain ⟨s₁, e, _, hp₁⟩ := hw.lasts s rest hs hp
      rw [hlasts s rest hs hp, e, hp₁]
    have hbare := hplain { pending := bs } (bs.drop n) rfl hbs
    obtain ⟨s₁, e, h₁⟩ := hw.fails _ _ hsource
    refine ⟨fun _ => ?_, fun hnot => absurd (fun rest => ?_) hnot⟩
    · rw [hfails _ _ hsource, e, hbare, h₁.2]
    · rw [hplain { pending := bs.take n ++ rest } rest rfl rfl, hbare]
      rfl
  · obtain ⟨s₁, e, _⟩ := hb.fails _ _ hsource
    refine ⟨fun hneeds => ?_, fun _ => ?_⟩
    · -- nothing more and enough more would be answered alike, and only one is for want of bytes
      have hsame := (hneeds []).trans (hneeds rest).symm
      obtain ⟨s₂, e₂, _⟩ := hb.lasts { pending := bs.take n ++ [] } rfl (List.append_nil _)
      rw [hlasts { pending := bs.take n ++ [] } [] rfl rfl,
        hlasts { pending := bs.take n ++ rest } rest rfl rfl, e₂] at hsame
      have heq := map_injective hf (Option.some.inj hsame)
      have hlacks := hrest { pending := bs.take n ++ rest } rfl rfl
      exact absurd (heq ▸ hr) hlacks
    · rw [hfails _ _ hsource, e]
      rfl

/-- **Opening a recording on a device that fails.** -/
theorem hear_zero_of_fails {bs : List UInt8} {n : Nat} (cues : List Cue) (hn : n ≤ bs.length) :
    (NeedsOnly bs n 0 → hear ⟨bs, cues, some n⟩ 0 = hear { pending := bs } 0) ∧
    (¬NeedsOnly bs n 0 → (hear ⟨bs, cues, some n⟩ 0).map Prod.fst = some lost) :=
  hear_of_decided cues hn (fun _ _ => Answer.header.inj)
    (Source.punctual_readHeader.decided (bs.take n)) (fun s _ _ _ => hear_zero s)
    (fun s _ _ => hear_zero s)

section Asking

variable {bs mid : List UInt8} {n : Nat} {h : Header} {fault : Fault}

/-- If the bytes before the failure are enough to refuse the header, there is no reader to ask. -/
theorem hear_succ_of_refused (cues : List Cue) (hn : n ≤ bs.length)
    (hw : Source.Within Source.readHeader (bs.take n) (.error fault) mid) (i : Nat) :
    NeedsOnly bs n (i + 1) ∧ hear ⟨bs, cues, some n⟩ (i + 1) = hear { pending := bs } (i + 1) := by
  have hnone (rest : List UInt8) : hear { pending := bs.take n ++ rest } (i + 1) = none := by
    obtain ⟨s₁, e, _⟩ := hw.lasts { pending := bs.take n ++ rest } rest rfl rfl
    exact hear_succ_of_error e i
  have hbare := hnone (bs.drop n)
  rw [List.take_append_drop] at hbare
  obtain ⟨s₁, e, _⟩ := hw.fails _ _ (failsAfter_take hn cues)
  constructor
  · intro rest
    rw [hnone, hbare]
  · rw [hear_succ_of_error e, hbare]

/-- If they are enough to read it, asking for a frame is a transfer that begins behind it. -/
theorem hear_succ_of_opened (cues : List Cue) (hn : n ≤ bs.length)
    (hw : Source.Within Source.readHeader (bs.take n) (.ok h) mid) (i : Nat) :
    (NeedsOnly bs n (i + 1) → hear ⟨bs, cues, some n⟩ (i + 1) = hear { pending := bs } (i + 1)) ∧
    (¬NeedsOnly bs n (i + 1) →
      (hear ⟨bs, cues, some n⟩ (i + 1)).map Prod.fst = some lost) := by
  let ask : Transfer Source (Option Frame) := fun s => Source.frameAt i (Source.readHeader s).2
  have hchain (s s₁ : Source) (e : Source.readHeader s = (.ok h, s₁)) :
      ask s = Source.frameAt i s₁ := by
    simp only [ask, e]
  have hask (s s₁ : Source) (e : Source.readHeader s = (.ok h, s₁)) :
      hear s (i + 1) = some ((ask s).1.map .frame?, (ask s).2.pending) := by
    rw [hear_succ_of_ok e, hchain s s₁ e]
  have hdecided := ((Source.punctual_frameAt i).decided mid).chain hchain hw
  refine hear_of_decided cues hn (fun _ _ => Answer.frame?.inj) hdecided ?_ ?_
  · intro s rest hs hp
    obtain ⟨s₁, e, _⟩ := hw.lasts s rest hs hp
    exact hask s s₁ e
  · intro s tail hs
    obtain ⟨s₁, e, _⟩ := hw.fails s tail hs
    exact hask s s₁ e

/-- If they are not enough for the header, the opening fails and there is no reader to ask. -/
theorem hear_succ_of_unopened (cues : List Cue) (hn : n ≤ bs.length)
    (hb : Source.Beyond Source.readHeader (bs.take n) (.error fault)) (i : Nat) :
    (NeedsOnly bs n (i + 1) → hear ⟨bs, cues, some n⟩ (i + 1) = hear { pending := bs } (i + 1)) ∧
    (hear ⟨bs, cues, some n⟩ 0).map Prod.fst = some lost ∧
      hear ⟨bs, cues, some n⟩ (i + 1) = none := by
  obtain ⟨s₁, e, _⟩ := hb.fails _ _ (failsAfter_take hn cues)
  have hnone := hear_succ_of_error e i
  refine ⟨?_, ?_, hnone⟩
  · intro hneeds
    obtain ⟨s₂, e₂, _⟩ := hb.lasts { pending := bs.take n ++ [] } rfl (List.append_nil _)
    have hsame := hneeds []
    rw [hear_succ_of_error e₂, Option.map_none] at hsame
    rw [hnone, Option.map_eq_none_iff.1 hsame.symm]
  · rw [hear_zero, e]
    rfl

end Asking

/-- **Asking for a frame on a device that fails.**  If the device has failed at the opening already,
there is no reader to ask. -/
theorem hear_succ_of_fails {bs : List UInt8} {n : Nat} (cues : List Cue) (hn : n ≤ bs.length)
    (i : Nat) :
    (NeedsOnly bs n (i + 1) → hear ⟨bs, cues, some n⟩ (i + 1) = hear { pending := bs } (i + 1)) ∧
    (¬NeedsOnly bs n (i + 1) →
      (hear ⟨bs, cues, some n⟩ (i + 1)).map Prod.fst = some lost ∨
        (hear ⟨bs, cues, some n⟩ 0).map Prod.fst = some lost ∧
          hear ⟨bs, cues, some n⟩ (i + 1) = none) := by
  rcases Source.punctual_readHeader (bs.take n) with ⟨r, mid, hw, _⟩ | ⟨r, hb, hr, _⟩
  · cases r with
    | error fault =>
        obtain ⟨hneeds, hsame⟩ := hear_succ_of_refused cues hn hw i
        exact ⟨fun _ => hsame, fun hnot => absurd hneeds hnot⟩
    | ok h =>
        obtain ⟨hsame, hlost⟩ := hear_succ_of_opened cues hn hw i
        exact ⟨hsame, fun hnot => .inl (hlost hnot)⟩
  · cases r with
    | error fault =>
        obtain ⟨hsame, hlost⟩ := hear_succ_of_unopened cues hn hb i
        exact ⟨hsame, fun _ => .inr hlost⟩
    | ok h => exact absurd hr id

end Reader

/-- **How the bytes arrive never shows.**  A source can be told to hand out its bytes in every way
in which a device may.  If it lasts, every call on the recording answers what it answers on the bare
bytes, and leaves the same bytes unread.  If it fails for good behind `n` bytes, the calls for which
these are enough answer as on the bare bytes, and all others are answered by the failure; if that is
so for the opening already, there are no others. -/
theorem delivery_never_shows (bs : List UInt8) :
    (∀ limit ds, Delivers bs limit ds →
      ∃ cues, (⟨bs, cues, limit⟩ : Source).reads (ds.map Prod.fst) = ds.map Prod.snd) ∧
    (∀ cues i, Reader.hear { pending := bs, cues := cues } i = Reader.hear { pending := bs } i) ∧
    ∀ cues n i, n ≤ bs.length →
      (Reader.NeedsOnly bs n i →
        Reader.hear ⟨bs, cues, some n⟩ i = Reader.hear { pending := bs } i) ∧
      (¬Reader.NeedsOnly bs n i →
        (Reader.hear ⟨bs, cues, some n⟩ i).map Prod.fst = some (.error (.device .failed)) ∨
          0 < i ∧ (Reader.hear ⟨bs, cues, some n⟩ 0).map Prod.fst =
            some (.error (.device .failed)) ∧ Reader.hear ⟨bs, cues, some n⟩ i = none) := by
  refine ⟨fun limit ds h => exists_cues h, fun cues i => ?_, fun cues n i hn => ?_⟩
  · have hs : ({ pending := bs, cues := cues } : Source).Lasts := rfl
    have hs' : ({ pending := bs } : Source).Lasts := rfl
    exact Reader.hear_of_lasts hs hs' rfl i
  cases i with
  | zero =>
      obtain ⟨hsame, hlost⟩ := Reader.hear_zero_of_fails cues hn
      exact ⟨hsame, fun hnot => .inl (hlost hnot)⟩
  | succ i =>
      obtain ⟨hsame, hlost⟩ := Reader.hear_succ_of_fails cues hn i
      exact ⟨hsame, fun hnot => (hlost hnot).imp id fun h => ⟨Nat.succ_pos i, h⟩⟩

/-- A device that hands out the bytes one by one, and that fails behind the header and one more
byte. -/
theorem delivery_never_shows_cutShort :
    (∃ cues, (⟨cutShort, cues, some 34⟩ : Source).reads [4, 2] =
      [.bytes [0x47, 0x42], .interrupted]) ∧
    Reader.hear ⟨cutShort, [.interrupt, .short 1], some 34⟩ 0 =
      Reader.hear { pending := cutShort } 0 ∧
    (Reader.hear ⟨cutShort, [.interrupt, .short 1], some 34⟩ 1).map Prod.fst =
      some (.error (.device .failed)) := by
  obtain ⟨hcues, _, hfails⟩ := delivery_never_shows cutShort
  have hlater : Delivers (cutShort.drop 2) (some 32) [(2, .interrupted)] :=
    .interrupted (by decide) .nil
  have htrace : Delivers ([0x47, 0x42] ++ cutShort.drop 2) (some 34)
      [(4, .bytes [0x47, 0x42]), (2, .interrupted)] :=
    .bytes (by decide) (by decide) (by decide) hlater
  have hread : Source.readHeader { pending := cutShort } =
      (.ok ⟨⟨"", "", "", ""⟩, 5, 0⟩, { pending := cutShort.drop 33 }) := by
    cbv
  have hopen : Reader.hear { pending := cutShort } 0 =
      some (.ok (.header ⟨⟨"", "", "", ""⟩, 5, 0⟩), cutShort.drop 33) := by
    rw [Reader.hear_zero, hread]
    rfl
  -- the header stands in the first 33 bytes, whatever stands behind them
  have hheader : Reader.NeedsOnly cutShort 34 0 := by
    intro rest
    have hfits : (⟨⟨"", "", "", ""⟩, 5, 0⟩ : Header).Fits :=
      Header.fits_iff.2 ⟨by decide, by decide, by decide, by decide⟩
    have hbytes : cutShort.take 34 = (⟨⟨"", "", "", ""⟩, 5, 0⟩ : Header).bytes ++ [1] := by decide
    obtain ⟨s₁, e, _⟩ := Source.takes_readHeader hfits { pending := cutShort.take 34 ++ rest }
      ([1] ++ rest) rfl (by rw [hbytes, List.append_assoc])
    rw [hopen, Reader.hear_zero, e]
    rfl
  have hframe : ¬Reader.NeedsOnly cutShort 34 1 := by
    intro hneeds
    have hsame := hneeds []
    -- the frame is whole in the bytes, but all that is left of it behind the cut is one byte
    have hwhole : Source.readFrame? { pending := cutShort.drop 33 } =
        (.ok (some ⟨1, .reset, 9⟩), { pending := [2, 0] }) := by
      cbv
    have hreadCut : Source.readHeader { pending := cutShort.take 34 ++ [] } =
        (.ok ⟨⟨"", "", "", ""⟩, 5, 0⟩, { pending := [1] }) := by
      cbv
    have hcut : Source.readFrame? { pending := [1] } =
        (.error (.malformed (.truncatedSeq 1)), { pending := [] }) := by
      cbv
    have hfirst : Source.frameAt 0 = Source.readFrame? := rfl
    rw [Reader.hear_succ_of_ok hreadCut, Reader.hear_succ_of_ok hread, hfirst, hcut, hwhole]
      at hsame
    cases hsame
  have hsame := (hfails [.interrupt, .short 1] 34 0 (by decide)).1 hheader
  refine ⟨hcues (some 34) _ htrace, hsame, ?_⟩
  rcases (hfails [.interrupt, .short 1] 34 1 (by decide)).2 hframe with hlost | ⟨_, hlost, _⟩
  · exact hlost
  · rw [hsame, hopen] at hlost
    cases hlost

end TorusRobot.Recording
