/-
**Writing and reading a recording undo each other.**

What was written is read back exactly, field for field and frame for frame, and reading stops where
writing has stopped.  Conversely, bytes that are read as a header and frames are the very bytes that
writing these gives, so a recording has no second spelling: whatever the bytes, corrupt or not, the
reader comes to the end, to a fault, or to a frame that the writer could have written there.

Main definitions:

* `TorusRobot.Recording.Sink.Writes`, `TorusRobot.Recording.Sink.RefusesText` — how writing goes
  where there is room for everything;
* `TorusRobot.Recording.Reader.readAll` — the frames up to the end or the first fault.

Main results:

* `TorusRobot.Recording.Reader.readAll_of_pending` — reading goes over the frames that stand there
  and on to what follows;
* `TorusRobot.Recording.Reader.pending_of_readAll` — where reading has stopped, and why;
* `TorusRobot.Recording.recording_reads_back` — **reading undoes writing**;
* `TorusRobot.Recording.recording_canonical` — **writing undoes reading**.
-/
import TorusRobot.Proofs.Recording.Reading
import TorusRobot.Recording.Reader

set_option relaxedAutoImplicit false
set_option autoImplicit false

namespace TorusRobot.Recording

/-! ### All the frames -/

namespace Reader

variable {r r' : Reader} {s : Source} {fs : List Frame}

/-- The frames that a reader gives up to the end or the first fault, which of the two came, and the
reader afterwards. -/
def readAll (r : Reader) : List Frame × Except Fault Unit × Reader :=
  match _h : r.next with
  | (.ok (some f), r') =>
    let (fs, ending, last) := r'.readAll
    (f :: fs, ending, last)
  | (.ok none, r') => ([], .ok (), r')
  | (.error fault, r') => ([], .error fault, r')
termination_by r.source.pending.length
decreasing_by exact length_next_lt _h

theorem readAll_of_some {f : Frame} (h : r.next = (.ok (some f), r')) :
    r.readAll = (f :: r'.readAll.1, r'.readAll.2) := by
  rw [readAll]
  split <;> simp_all

theorem readAll_of_none (h : r.next = (.ok none, r')) : r.readAll = ([], .ok (), r') := by
  rw [readAll]
  split <;> simp_all

theorem readAll_of_error {fault : Fault} (h : r.next = (.error fault, r')) :
    r.readAll = ([], .error fault, r') := by
  rw [readAll]
  split <;> simp_all

/-- Asking for the next frame is reading one from the source. -/
theorem next_eq (r : Reader) :
    r.next.1 = (Source.readFrame? r.source).1 ∧ r.next.2.source = (Source.readFrame? r.source).2 ∧
      r.next.2.header = r.header := by
  unfold next
  split <;> simp_all

theorem readFrame?_of_next {result : Except Fault (Option Frame)} (h : r.next = (result, r')) :
    Source.readFrame? r.source = (result, r'.source) := by
  obtain ⟨h₁, h₂, _⟩ := r.next_eq
  rw [h] at h₁ h₂
  exact Prod.ext h₁.symm h₂.symm

theorem lasts_of_next {result : Except Fault (Option Frame)} (hs : r.source.Lasts)
    (h : r.next = (result, r')) : r'.source.Lasts := by
  have hk := Source.keeps_readFrame? Source.respected_lasts r.source hs
  rwa [readFrame?_of_next h] at hk

/-- A frame that stands there comes next. -/
theorem next_of_pending {f : Frame} {rest : List UInt8} (hs : r.source.Lasts) (hf : f.Fits)
    (hp : r.source.pending = f.bytes ++ rest) :
    ∃ r', r.next = (.ok (some f), r') ∧ r'.source.Lasts ∧ r'.source.pending = rest := by
  obtain ⟨s', e, hs', hp'⟩ := Source.takes_readFrame? hf r.source rest hs hp
  obtain ⟨h₁, h₂, _⟩ := r.next_eq
  rw [e] at h₁ h₂
  refine ⟨r.next.2, Prod.ext h₁ rfl, ?_, ?_⟩
  · rwa [h₂]
  · rwa [h₂]

/-- Reading goes over the frames that stand there and on to what follows. -/
theorem readAll_of_pending {rest : List UInt8} (hs : r.source.Lasts) (hf : ∀ f ∈ fs, f.Fits)
    (hp : r.source.pending = fs.flatMap Frame.bytes ++ rest) :
    ∃ r' : Reader, r'.source.Lasts ∧ r'.source.pending = rest ∧
      r.readAll = (fs ++ r'.readAll.1, r'.readAll.2) := by
  induction fs generalizing r with
  | nil => exact ⟨r, hs, hp, rfl⟩
  | cons f fs ih =>
      -- the first frame is read, and the others stand at the front of what follows it
      rw [List.flatMap_cons, List.append_assoc] at hp
      obtain ⟨r₁, e₁, hs₁, hp₁⟩ := next_of_pending hs (hf f List.mem_cons_self) hp
      obtain ⟨r₂, hs₂, hp₂, e₂⟩ := ih hs₁ (fun g hg => hf g (List.mem_cons_of_mem f hg)) hp₁
      refine ⟨r₂, hs₂, hp₂, ?_⟩
      rw [readAll_of_some e₁, e₂, List.cons_append]

/-- Reading frames with nothing behind them comes to the end. -/
theorem readAll_of_pending_end (hs : r.source.Lasts) (hf : ∀ f ∈ fs, f.Fits)
    (hp : r.source.pending = fs.flatMap Frame.bytes) : ∃ r', r.readAll = (fs, .ok (), r') := by
  rw [← List.append_nil (fs.flatMap _)] at hp
  obtain ⟨r₁, hs₁, hp₁, e₁⟩ := readAll_of_pending hs hf hp
  have h := Source.readFrame?_of_nil hs₁ hp₁
  rw [← r₁.next_eq.1] at h
  have e₂ : r₁.readAll = ([], .ok (), r₁.next.2) := readAll_of_none (Prod.ext h rfl)
  exact ⟨r₁.next.2, by rw [e₁, e₂, List.append_nil]⟩

/-- What is written of some frame, if all of it can be written, stands at the front of the bytes. -/
def StartsWithFrame (bs : List UInt8) : Prop :=
  ∃ f frame tail, Sink.output (Sink.writeFrame f) = .ok frame ∧ bs = frame ++ tail

theorem startsWithFrame_iff {bs : List UInt8} :
    StartsWithFrame bs ↔ ∃ f tail, Frame.Fits f ∧ bs = f.bytes ++ tail := by
  constructor
  · rintro ⟨f, frame, tail, h, rfl⟩
    obtain ⟨hf, rfl⟩ := Sink.output_writeFrame_eq_ok_iff.1 h
    exact ⟨f, tail, hf, rfl⟩
  · rintro ⟨f, tail, hf, rfl⟩
    exact ⟨f, f.bytes, tail, Sink.output_writeFrame_eq_ok_iff.2 ⟨hf, rfl⟩, rfl⟩

/-- What reading has gone over are the bytes of the frames it gave, and it has stopped at the end
exactly if no bytes are left, and at a fault exactly if those left do not start with a frame. -/
theorem pending_of_readAll {ending : Except Fault Unit} (hs : r.source.Lasts)
    (h : r.readAll = (fs, ending, r')) :
    (∀ f ∈ fs, f.Fits) ∧ ∃ rest, r.source.pending = fs.flatMap Frame.bytes ++ rest ∧
      (ending = .ok () ↔ rest = []) ∧
      ((∃ fault, ending = .error fault) ↔ rest ≠ [] ∧ ¬StartsWithFrame rest) := by
  fun_induction readAll r generalizing fs ending r' with
  | case1 r f r₁ hn fs₁ ending₁ last₁ e ih =>
      cases h
      obtain ⟨hf, hp⟩ := Source.pending_of_readFrame? (readFrame?_of_next hn)
      obtain ⟨hfs, rest, hp₁, hok, herror⟩ := ih (lasts_of_next hs hn) e
      refine ⟨List.forall_mem_cons.2 ⟨hf, hfs⟩, rest, ?_, hok, herror⟩
      rw [hp, hp₁, List.flatMap_cons, List.append_assoc]
  | case2 r r₁ hn =>
      cases h
      have hp := Source.pending_of_readFrame?_none (readFrame?_of_next hn)
      exact ⟨by simp, [], by simp [hp], by simp, by simp⟩
  | case3 r fault r₁ hn =>
      cases h
      have hne : r.source.pending ≠ [] := by
        intro hp
        have h := Source.readFrame?_of_nil hs hp
        rw [readFrame?_of_next hn] at h
        cases h
      -- a whole frame at the front would have been read
      have hstart : ¬StartsWithFrame r.source.pending := by
        rw [startsWithFrame_iff]
        rintro ⟨f, tail, hf, hp⟩
        obtain ⟨r₂, e, _⟩ := next_of_pending hs hf hp
        rw [hn] at e
        cases e
      exact ⟨by simp, r.source.pending, by simp, by simp [hne], by simp [hne, hstart]⟩

/-- A header that stands there opens the recording. -/
theorem ofSource_of_pending {h : Header} {rest : List UInt8} (hs : s.Lasts) (hf : h.Fits)
    (hp : s.pending = h.bytes ++ rest) :
    ∃ r, ofSource s = .ok r ∧ r.header = h ∧ r.source.Lasts ∧ r.source.pending = rest := by
  obtain ⟨s', e, hs', hp'⟩ := Source.takes_readHeader hf s rest hs hp
  exact ⟨{ source := s', header := h }, by simp [ofSource, e], rfl, hs', hp'⟩

/-- A recording that was opened starts with the bytes of its header. -/
theorem pending_of_ofSource (hs : s.Lasts) (h : ofSource s = .ok r) :
    r.header.Fits ∧ r.source.Lasts ∧ s.pending = r.header.bytes ++ r.source.pending := by
  unfold ofSource at h
  split at h
  · rename_i header s' e
    cases h
    obtain ⟨hf, hp⟩ := Source.pending_of_readHeader e
    have hk := Source.keeps_readHeader Source.respected_lasts s hs
    rw [e] at hk
    exact ⟨hf, hk, hp⟩
  · cases h

end Reader

/-! ### Reading undoes writing -/

/-- On every sink with room for everything, `t` writes exactly `bs` and succeeds. -/
def Sink.Writes (t : Transfer Sink Unit) (bs : List UInt8) : Prop :=
  ∀ s : Sink, s.room = none → t s = (.ok (), { s with written := s.written ++ bs })

/-- On every sink with room for everything, `t` fails because a text is too long. -/
def Sink.RefusesText (t : Transfer Sink Unit) : Prop :=
  ∀ s : Sink, s.room = none →
    ∃ n, textLimit < n ∧ (t s).1 = .error (.malformed (.textTooLong n))

theorem Sink.writes_put (bs : List UInt8) : Sink.Writes (Sink.put bs (.ok ())) bs :=
  fun _ h => Sink.put_unlimited h bs (.ok ())

theorem Sink.Refused.refusesText {t : Transfer Sink Unit} (h : Sink.Refused t) :
    Sink.RefusesText t := by
  obtain ⟨bs, n, hn, rfl⟩ := h
  intro s hs
  exact ⟨n, hn, by rw [Sink.put_unlimited hs]⟩

/-- Nothing is both written and refused. -/
theorem Sink.Writes.not_refusesText {t : Transfer Sink Unit} {bs : List UInt8}
    (h : Sink.Writes t bs) : ¬Sink.RefusesText t := by
  intro hr
  obtain ⟨n, _, e⟩ := hr {} rfl
  rw [h {} rfl] at e
  cases e

/-- What is written if `P` holds, and refused if not, is refused exactly if `P` does not hold. -/
theorem Sink.refusesText_iff {P : Prop} {t : Transfer Sink Unit} {bs : List UInt8}
    (hw : P → t = Sink.put bs (.ok ())) (hr : ¬P → Sink.Refused t) :
    Sink.RefusesText t ↔ ¬P := by
  refine ⟨fun h hP => ?_, fun hP => (hr hP).refusesText⟩
  have := Sink.writes_put bs
  rw [← hw hP] at this
  exact this.not_refusesText h

/-- **Reading undoes writing.**  A header and a frame whose texts fit are written, and their bytes
are read as that header and frame, whatever follows them, and no byte further.  A whole recording is
written, and reading it gives its header, then its frames in order, then the end.  Where a text is
too long, and only there, writing fails, and that is the fault it tells. -/
theorem recording_reads_back (h : Header) (fs : List Frame) :
    ((h.Fits → ∃ bs, Sink.Writes (Sink.writeHeader h) bs ∧ Source.Takes Source.readHeader bs h) ∧
      (Sink.RefusesText (Sink.writeHeader h) ↔ ¬h.Fits)) ∧
    (∀ f : Frame, (f.Fits → ∃ bs, Sink.Writes (Sink.writeFrame f) bs ∧
        Source.Takes Source.readFrame? bs (some f)) ∧
      (Sink.RefusesText (Sink.writeFrame f) ↔ ¬f.Fits)) ∧
    ((h.Fits ∧ (∀ f ∈ fs, f.Fits) → ∃ bs, Sink.Writes (Sink.writeRecording h fs) bs ∧
        ∀ s : Source, s.Lasts → s.pending = bs →
          ∃ r r', Reader.ofSource s = .ok r ∧ r.header = h ∧ r.readAll = (fs, .ok (), r')) ∧
      (Sink.RefusesText (Sink.writeRecording h fs) ↔ ¬(h.Fits ∧ ∀ f ∈ fs, f.Fits))) := by
  refine ⟨⟨fun hf => ?_, ?_⟩, fun f => ⟨fun hf => ?_, ?_⟩, fun ⟨hf, hfs⟩ => ?_, ?_⟩
  · refine ⟨h.bytes, ?_, Source.takes_readHeader hf⟩
    rw [Sink.writeHeader_of_fits hf]
    exact Sink.writes_put h.bytes
  · exact Sink.refusesText_iff Sink.writeHeader_of_fits Sink.refused_writeHeader
  · refine ⟨f.bytes, ?_, Source.takes_readFrame? hf⟩
    rw [Sink.writeFrame_of_fits hf]
    exact Sink.writes_put f.bytes
  · exact Sink.refusesText_iff Sink.writeFrame_of_fits Sink.refused_writeFrame
  · refine ⟨h.bytes ++ fs.flatMap Frame.bytes, ?_, fun s hs hp => ?_⟩
    · rw [Sink.writeRecording_of_fits hf hfs]
      exact Sink.writes_put _
    · obtain ⟨r, e, hh, hs', hp'⟩ := Reader.ofSource_of_pending hs hf hp
      obtain ⟨r', e'⟩ := Reader.readAll_of_pending_end hs' hfs hp'
      exact ⟨r, r', e, hh, e'⟩
  · exact Sink.refusesText_iff (fun ⟨hf, hfs⟩ => Sink.writeRecording_of_fits hf hfs)
      Sink.refused_writeRecording

/-- A header without platform and build. -/
def plainHeader : Header := ⟨⟨"1.87", "", "0.1.0", ""⟩, 5, 7⟩

/-- A line that has more bytes than characters, and a reset behind it. -/
def accentedFrames : List Frame := [⟨1, .command "déjà vu" .invalid, 8⟩, ⟨2, .reset, 9⟩]

/-- The hypotheses of `TorusRobot.Recording.recording_reads_back` are met by a short recording. -/
theorem recording_reads_back_accented :
    ∃ bs, Sink.Writes (Sink.writeRecording plainHeader accentedFrames) bs ∧
      ∃ r r', Reader.ofSource { pending := bs } = .ok r ∧ r.header = plainHeader ∧
        r.readAll = (accentedFrames, .ok (), r') := by
  have hheader : plainHeader.Fits :=
    Header.fits_iff.2 ⟨by decide, by decide, by decide, by decide⟩
  have hline : Frame.Fits ⟨1, .command "déjà vu" .invalid, 8⟩ :=
    (Frame.fits_of_command rfl).2 (by decide)
  have hreset : Frame.Fits ⟨2, .reset, 9⟩ := Frame.fits_of_reset rfl
  have hframes : ∀ f ∈ accentedFrames, f.Fits :=
    List.forall_mem_cons.2 ⟨hline, List.forall_mem_singleton.2 hreset⟩
  obtain ⟨_, _, hrecording, _⟩ := recording_reads_back plainHeader accentedFrames
  obtain ⟨bs, hw, hread⟩ := hrecording ⟨hheader, hframes⟩
  exact ⟨bs, hw, hread { pending := bs } rfl rfl⟩

/-! ### Writing undoes reading -/

/-- What was opened and read is a recording that can be written, with bytes left behind it. -/
theorem pending_of_recording {s : Source} {r r' : Reader} {fs : List Frame}
    {ending : Except Fault Unit} (hs : s.Lasts) (ho : Reader.ofSource s = .ok r)
    (hr : r.readAll = (fs, ending, r')) :
    ∃ bs rest, Sink.output (Sink.writeRecording r.header fs) = .ok bs ∧ s.pending = bs ++ rest ∧
      (ending = .ok () ↔ rest = []) ∧
      ((∃ fault, ending = .error fault) ↔ rest ≠ [] ∧ ¬Reader.StartsWithFrame rest) := by
  obtain ⟨hf, hs', hp⟩ := Reader.pending_of_ofSource hs ho
  obtain ⟨hfs, rest, hp', hok, herror⟩ := Reader.pending_of_readAll hs' hr
  refine ⟨r.header.bytes ++ fs.flatMap Frame.bytes, rest, ?_, ?_, hok, herror⟩
  · rw [Sink.writeRecording_of_fits hf hfs, Sink.output_put]
    rfl
  · rw [hp, hp', List.append_assoc]

/-- **Writing undoes reading.**  Whatever the bytes are, those that were read as a header and frames
are the bytes that writing this header and these frames gives.  Reading has come to the end exactly
if no bytes are left, and to a fault exactly if some are left that do not start with a whole frame.
So no other bytes are read cleanly as the same recording, and a frame that was read, be it behind a
fault, can be written. -/
theorem recording_canonical {s : Source} {r r' : Reader} {fs : List Frame}
    {ending : Except Fault Unit} (hs : s.Lasts) (ho : Reader.ofSource s = .ok r)
    (hr : r.readAll = (fs, ending, r')) :
    (∃ bs rest, Sink.output (Sink.writeRecording r.header fs) = .ok bs ∧ s.pending = bs ++ rest ∧
      (ending = .ok () ↔ rest = []) ∧
      ((∃ fault, ending = .error fault) ↔ rest ≠ [] ∧ ¬Reader.StartsWithFrame rest)) ∧
    (∀ (s₂ : Source) (r₂ r₂' : Reader), s₂.Lasts → Reader.ofSource s₂ = .ok r₂ →
      r₂.header = r.header → r₂.readAll = (fs, .ok (), r₂') → ending = .ok () →
        s₂.pending = s.pending) ∧
    (∀ (r₁ r₂ : Reader) (f : Frame), r₁.next = (.ok (some f), r₂) →
      ∃ bs, Sink.output (Sink.writeFrame f) = .ok bs) := by
  refine ⟨pending_of_recording hs ho hr, ?_, ?_⟩
  · intro s₂ r₂ r₂' hs₂ ho₂ hh hr₂ hend
    obtain ⟨bs, rest, hw, hp, hok, _⟩ := pending_of_recording hs ho hr
    obtain ⟨bs₂, rest₂, hw₂, hp₂, hok₂, _⟩ := pending_of_recording hs₂ ho₂ hr₂
    rw [hh, hw, Except.ok.injEq] at hw₂
    rw [hp, hp₂, hok.1 hend, hok₂.1 rfl, hw₂]
  · intro r₁ r₂ f hn
    obtain ⟨hf, _⟩ := Source.pending_of_readFrame? (Reader.readFrame?_of_next hn)
    exact ⟨f.bytes, Sink.output_writeFrame_eq_ok_iff.2 ⟨hf, rfl⟩⟩

/-- A recording of a single reset with two more bytes behind it. -/
def cutShort : List UInt8 :=
  [0x47, 0x42, 0x4F, 0x54, 1, 0, 0, 0, 0, 0, 0, 0, 0, 0, 0, 0, 0, 0, 0, 0, 0,
   5, 0, 0, 0, 0, 0, 0, 0, 0, 0, 0, 0,
   1, 0, 0, 0, 0, 0, 0, 0, 1, 9, 0, 0, 0, 0, 0, 0, 0,
   2, 0]

/-- The hypotheses of `TorusRobot.Recording.recording_canonical` are met by a recording that is cut
short in its second frame. -/
theorem recording_canonical_cutShort :
    ∃ r r', Reader.ofSource { pending := cutShort } = .ok r ∧
      r.readAll = ([⟨1, .reset, 9⟩], .error (.malformed (.truncatedSeq 2)), r') ∧
      ∃ bs rest, Sink.output (Sink.writeRecording r.header [⟨1, .reset, 9⟩]) = .ok bs ∧
        cutShort = bs ++ rest ∧ rest ≠ [] ∧ ¬Reader.StartsWithFrame rest := by
  have ho : Reader.ofSource { pending := cutShort } =
      .ok { source := { pending := cutShort.drop 33 }, header := ⟨⟨"", "", "", ""⟩, 5, 0⟩ } := by
    cbv
  have hn : ({ source := { pending := cutShort.drop 33 },
               header := ⟨⟨"", "", "", ""⟩, 5, 0⟩ } : Reader).next =
      (.ok (some ⟨1, .reset, 9⟩),
        { source := { pending := [2, 0] }, header := ⟨⟨"", "", "", ""⟩, 5, 0⟩,
          framesRead := 1 }) := by
    cbv
  have he : ({ source := { pending := [2, 0] }, header := ⟨⟨"", "", "", ""⟩, 5, 0⟩,
               framesRead := 1 } : Reader).next =
      (.error (.malformed (.truncatedSeq 2)),
        { source := { pending := [] }, header := ⟨⟨"", "", "", ""⟩, 5, 0⟩,
          framesRead := 1 }) := by
    cbv
  have hs : Source.Lasts { pending := cutShort } := rfl
  have hr := Reader.readAll_of_some hn
  rw [Reader.readAll_of_error he] at hr
  obtain ⟨⟨bs, rest, hw, hp, _, herror⟩, _⟩ := recording_canonical hs ho hr
  obtain ⟨hne, hstart⟩ := herror.1 ⟨_, rfl⟩
  exact ⟨_, _, ho, hr, bs, rest, hw, hp, hne, hstart⟩

end TorusRobot.Recording
