/-
**Reading what is not there to the end.**

A recording that breaks off anywhere is told apart from a whole one.  In the midst of a header, and
of a frame behind its sequence number, reading asks for bytes that do not come and fails with the
device's own fault; in the midst of a sequence number it fails with a fault that tells how many of
its bytes there are.  Only between two frames is the end taken for the end.

Main definitions:

* `TorusRobot.Recording.Source.Starves` — the end comes in the midst of certain bytes;
* `TorusRobot.Recording.Breaks` — bytes that are the beginning of the next frame, but not all of it;
* `TorusRobot.Recording.Reader.endingAt` — how reading ends behind so many bytes of a frame.

Main results:

* `TorusRobot.Recording.Source.Starves.bind` — one part after another starves in either part;
* `TorusRobot.Recording.Source.starves_readHeader`,
  `TorusRobot.Recording.Source.readFrame?_of_breaks` — headers and frames that break off;
* `TorusRobot.Recording.Reader.readAll_of_breaks` — **frames with the beginning of one more behind
  them**.
-/
import TorusRobot.Proofs.Recording.RoundTrip

set_option relaxedAutoImplicit false
set_option autoImplicit false

namespace TorusRobot.Recording

namespace Source

variable {α β : Type} {s s' : Source}

/-! ### Running out of bytes -/

/-- From a source that does not fail, and that holds the beginning of `bs` but not all of it, `t`
does not get what it needs. -/
def Starves (t : Transfer Source α) (bs : List UInt8) : Prop :=
  ∀ s : Source, s.Lasts → s.pending <+: bs → s.pending.length < bs.length →
    (t s).1 = .error (.device .endOfInput)

theorem bind_fst_of_error {t : Transfer Source α} {f : α → Transfer Source β} {fault : Fault}
    (h : (t s).1 = .error fault) : ((t >>= f) s).1 = .error fault := by
  have ht : t s = (.error fault, (t s).2) := Prod.ext h rfl
  rw [Transfer.bind_of_error ht]

/-- What has run out of bytes once does not go on. -/
theorem Starves.bind_nil {t : Transfer Source α} {bs : List UInt8} (ht : Starves t bs)
    (f : α → Transfer Source β) : Starves (t >>= f) bs := by
  intro s hs hp hlt
  exact bind_fst_of_error (ht s hs hp hlt)

/-- What is taken one after another runs out of bytes in the first part or in the second. -/
theorem Starves.bind {t : Transfer Source α} {f : α → Transfer Source β} {bs cs : List UInt8}
    {a : α} (ht : Starves t bs) (htakes : Takes t bs a) (hf : Starves (f a) cs) :
    Starves (t >>= f) (bs ++ cs) := by
  intro s hs hp hlt
  by_cases hl : s.pending.length < bs.length
  · have hfront : s.pending <+: bs :=
      List.prefix_of_prefix_length_le hp (List.prefix_append bs cs) (Nat.le_of_lt hl)
    exact bind_fst_of_error (ht s hs hfront hl)
  · -- the first part is there, and the second part breaks off
    have hfront : bs <+: s.pending :=
      List.prefix_of_prefix_length_le (List.prefix_append bs cs) hp (Nat.le_of_not_lt hl)
    obtain ⟨rest, hrest⟩ := hfront
    obtain ⟨s', e, hs', hp'⟩ := htakes s rest hs hrest.symm
    rw [← hrest, List.length_append, List.length_append] at hlt
    rw [← hrest, List.prefix_append_right_inj] at hp
    rw [Transfer.bind_of_ok e]
    apply hf s' hs'
    · rwa [hp']
    · rw [hp']
      omega

theorem starves_readExact (bs : List UInt8) : Starves (readExact bs.length) bs := by
  intro s hs _ hlt
  obtain ⟨s', e, _⟩ := gather_of_lt [] hs hlt
  rw [readExact, e]

theorem starves_readByte (b : UInt8) : Starves readByte [b] :=
  (starves_readExact [b]).bind_nil _

theorem starves_readWord32 (n : UInt32) : Starves readWord32 (LittleEndian.word32 n) := by
  have h := starves_readExact (LittleEndian.word32 n)
  rw [LittleEndian.length_word32] at h
  exact h.bind_nil _

theorem starves_readWord64 (n : UInt64) : Starves readWord64 (LittleEndian.word64 n) := by
  have h := starves_readExact (LittleEndian.word64 n)
  rw [LittleEndian.length_word64] at h
  exact h.bind_nil _

theorem starves_readText {text : String} (h : TextFits text) :
    Starves readText (textBytes text) := by
  have hn : (UInt32.ofNat (Text.Utf8.encode text).length).toNat =
      (Text.Utf8.encode text).length := toNat_length_of_fits h
  have hc : checkLength (Text.Utf8.encode text).length = .ok () := checkLength_of_le h
  refine (starves_readWord32 _).bind (takes_readWord32 _) ?_
  rw [hn, hc]
  exact (starves_readExact (Text.Utf8.encode text)).bind_nil _

theorem starves_readProvenance {p : Provenance} (hl : TextFits p.language)
    (hp : TextFits p.platform) (hg : TextFits p.program) (hb : TextFits p.build) :
    Starves readProvenance
      (textBytes p.language ++ (textBytes p.platform ++ (textBytes p.program ++
        textBytes p.build))) :=
  (starves_readText hl).bind (takes_readText hl) <|
    (starves_readText hp).bind (takes_readText hp) <|
      (starves_readText hg).bind (takes_readText hg) <| (starves_readText hb).bind_nil _

/-- A header that breaks off is not read. -/
theorem starves_readHeader {h : Header} (hf : h.Fits) : Starves readHeader h.bytes := by
  obtain ⟨hl, hp, hg, hb⟩ := Header.fits_iff.1 hf
  have hrest := (starves_readProvenance hl hp hg hb).bind (takes_readProvenance hl hp hg hb)
    (f := fun p => do
      let side ← readWord32
      let digest ← readWord64
      return (⟨p, side, digest⟩ : Header))
    ((starves_readWord32 h.side).bind (takes_readWord32 h.side)
      ((starves_readWord64 h.settingsDigest).bind_nil _))
  simp only [List.append_assoc] at hrest
  refine (starves_readExact magic).bind (takes_readExact magic) ?_
  rw [if_pos rfl]
  refine (starves_readByte formatVersion).bind (takes_readByte formatVersion) ?_
  rw [if_pos rfl]
  exact hrest

theorem starves_readAction {action : Action} (h : ∀ text ∈ action.texts, TextFits text) :
    Starves readAction action.bytes := by
  cases action with
  | reset => exact (starves_readByte resetTag).bind_nil _
  | command line status =>
      have hl : TextFits line := h line (List.mem_singleton.2 rfl)
      refine (starves_readByte commandTag).bind (takes_readByte commandTag) ?_
      rw [if_pos rfl]
      exact (starves_readText hl).bind (takes_readText hl)
        ((starves_readByte (statusTag status)).bind_nil _)

theorem starves_readFrameBody {f : Frame} (h : f.Fits) :
    Starves (readFrameBody f.seq) (f.action.bytes ++ LittleEndian.word64 f.digest) :=
  (starves_readAction h).bind (takes_readAction h) ((starves_readWord64 f.digest).bind_nil _)

/-! ### Frames that break off -/

/-- Some bytes of a sequence number, but not all of them, are a fault of their own. -/
theorem readSeq?_of_lt (hs : s.Lasts) (hne : s.pending ≠ []) (hlt : s.pending.length < 8) :
    (readSeq? s).1 = .error (.malformed (.truncatedSeq s.pending.length)) := by
  obtain ⟨s', e, _⟩ := gather_of_lt [] hs hlt
  cases hp : s.pending with
  | nil => exact absurd hp hne
  | cons b bs =>
      rw [List.reverse_nil, List.nil_append, hp] at e
      rw [readSeq?, e]

/-- Behind the sequence number, a frame that breaks off lacks bytes. -/
theorem readFrame?_of_starved {f : Frame} (hs : s.Lasts) (hf : f.Fits)
    (hp : s.pending <+: f.bytes) (hlt : s.pending.length < f.bytes.length)
    (hseq : 8 ≤ s.pending.length) : (readFrame? s).1 = .error (.device .endOfInput) := by
  have hword : LittleEndian.word64 f.seq <+: s.pending := by
    refine List.prefix_of_prefix_length_le (List.prefix_append _ _) hp ?_
    rw [LittleEndian.length_word64]
    exact hseq
  obtain ⟨rest, hrest⟩ := hword
  obtain ⟨s', e, hs', hp'⟩ := takes_readSeq? f.seq s rest hs hrest.symm
  rw [← hrest, Frame.bytes, List.prefix_append_right_inj] at hp
  rw [← hrest, Frame.bytes, List.length_append, List.length_append] at hlt
  rw [readFrame?, Transfer.bind_of_ok e]
  apply bind_fst_of_error
  apply starves_readFrameBody hf s' hs'
  · rwa [hp']
  · rw [hp']
    omega

end Source

/-! ### Recordings that break off -/

/-- The bytes `part` are the beginning of the first of the frames, but not all of it; if there are
no frames, there are no bytes. -/
def Breaks (part : List UInt8) : List Frame → Prop
  | [] => part = []
  | f :: _ => part <+: f.bytes ∧ part.length < f.bytes.length

namespace Reader

/-- How reading ends behind `n` bytes of a frame and no more. -/
def endingAt (n : Nat) : Except Fault Unit :=
  if n = 0 then .ok ()
  else if n < 8 then .error (.malformed (.truncatedSeq n))
  else .error (.device .endOfInput)

/-- The fault in the midst of a sequence number tells how many of its bytes are there. -/
theorem endingAt_of_lt {n : Nat} (h0 : 0 < n) (h8 : n < 8) :
    ∃ why, endingAt n = .error (.malformed why) ∧
      why.message = "truncated frame header: got " ++ Text.Decimal.text n ++
        " of 8 bytes for seq" := by
  refine ⟨.truncatedSeq n, ?_, rfl⟩
  rw [endingAt, if_neg (Nat.ne_of_gt h0), if_pos h8]

/-- The bytes that break off are not read as a frame. -/
theorem readFrame?_of_breaks {s : Source} {fs : List Frame} (hs : s.Lasts)
    (hf : ∀ f ∈ fs, f.Fits) (hp : Breaks s.pending fs) :
    (Source.readFrame? s).1 = (endingAt s.pending.length).map fun _ => none := by
  by_cases hnil : s.pending = []
  · rw [Source.readFrame?_of_nil hs hnil, hnil]
    rfl
  · have hpos : s.pending.length ≠ 0 := fun h => hnil (List.length_eq_zero_iff.1 h)
    rw [endingAt, if_neg hpos]
    cases fs with
    | nil => exact absurd hp hnil
    | cons f fs =>
        obtain ⟨hfront, hlt⟩ := hp
        by_cases hseq : s.pending.length < 8
        · rw [if_pos hseq]
          exact Source.bind_fst_of_error (Source.readSeq?_of_lt hs hnil hseq)
        · rw [if_neg hseq]
          exact Source.readFrame?_of_starved hs (hf f List.mem_cons_self) hfront hlt
            (Nat.le_of_not_lt hseq)

/-- **Frames with the beginning of one more behind them** are read, and then reading ends as the
number of bytes behind them tells. -/
theorem readAll_of_breaks {r : Reader} {fs gs : List Frame} {part : List UInt8}
    (hs : r.source.Lasts) (hfs : ∀ f ∈ fs, f.Fits) (hgs : ∀ f ∈ gs, f.Fits)
    (hp : r.source.pending = fs.flatMap Frame.bytes ++ part) (hpart : Breaks part gs) :
    ∃ r', r.readAll = (fs, endingAt part.length, r') := by
  obtain ⟨r₁, hs₁, hp₁, e₁⟩ := readAll_of_pending hs hfs hp
  rw [← hp₁] at hpart
  have hread := readFrame?_of_breaks hs₁ hgs hpart
  rw [← r₁.next_eq.1, hp₁] at hread
  refine ⟨r₁.next.2, ?_⟩
  rw [e₁]
  cases hending : endingAt part.length with
  | ok u =>
      rw [hending] at hread
      rw [readAll_of_none (Prod.ext hread rfl), List.append_nil]
  | error fault =>
      rw [hending] at hread
      rw [readAll_of_error (Prod.ext hread rfl), List.append_nil]

/-- A recording that breaks off in its header is not opened. -/
theorem ofSource_of_starved {s : Source} {h : Header} (hs : s.Lasts) (hf : h.Fits)
    (hp : s.pending <+: h.bytes) (hlt : s.pending.length < h.bytes.length) :
    ofSource s = .error (.device .endOfInput) := by
  have hread := Source.starves_readHeader hf s hs hp hlt
  have e : Source.readHeader s = (.error (.device .endOfInput), (Source.readHeader s).2) :=
    Prod.ext hread rfl
  rw [ofSource, e]

end Reader

end TorusRobot.Recording
