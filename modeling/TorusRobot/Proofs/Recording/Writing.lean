/-
**What writing puts in a sink.**

Every part of a recording is written by a series of writes, and a part may be refused in the midst
of it.  All the same, what it does to a sink is told by two things that do not depend on the sink:
the bytes it writes, and the answer it gives once they are written.  A sink without room for all of
these bytes takes as many as fit and gives its own fault in place of the answer.

Main definitions:

* `TorusRobot.Recording.Sink.put` — writing bytes, then giving an answer;
* `TorusRobot.Recording.TextFits`, `TorusRobot.Recording.Header.Fits`,
  `TorusRobot.Recording.Frame.Fits` — no text is longer than the limit;
* `TorusRobot.Recording.Header.bytes`, `TorusRobot.Recording.Frame.bytes` — the bytes of a header
  and of a frame;
* `TorusRobot.Recording.Sink.writeRecording` — a header and frames, one after another;
* `TorusRobot.Recording.Sink.output` — what is written where there is room for everything;
* `TorusRobot.Recording.Writer.extend` — a writer after more frames.

Main results:

* `TorusRobot.Recording.Sink.put_bind` — writing one part after another joins their bytes;
* `TorusRobot.Recording.Sink.writeHeader_of_fits`, `TorusRobot.Recording.Sink.writeFrame_of_fits`
  — what fits is written whole;
* `TorusRobot.Recording.Sink.refused_writeHeader`, `TorusRobot.Recording.Sink.writeFrame_of_not_fits`
  — what does not fit is refused, the frame after the first nine of its bytes;
* `TorusRobot.Recording.Writer.writeFrame_of_fits` — a writer counts the frame that it has written.
-/
import TorusRobot.Recording.Writer

set_option relaxedAutoImplicit false
set_option autoImplicit false

namespace TorusRobot.Recording

/-! ### Bytes, then an answer -/

namespace Sink

variable {α β : Type}

theorem bytes_append (s : Sink) (bs : List UInt8) :
    Sink.bytes { s with written := s.written ++ bs } = s.bytes ++ bs := by
  simp [bytes]

/-- The bytes `bs` are written, then the answer is `r`. -/
def put (bs : List UInt8) (r : Except Fault α) : Transfer Sink α := do
  write bs
  Transfer.ofExcept r

theorem write_nil : write [] = (pure () : Transfer Sink Unit) := by
  funext s
  cases h : s.room with
  | none =>
      rw [write_unlimited h]
      simp
  | some n => cases s; simp_all [write]

theorem append_list_append (a : Array UInt8) (bs cs : List UInt8) :
    a ++ (bs ++ cs) = a ++ bs ++ cs := by
  apply Array.ext'
  simp

/-- Bytes may be written in two parts: where they do not fit, neither do the two parts. -/
theorem write_append (bs cs : List UInt8) : write (bs ++ cs) = write bs >>= fun _ => write cs := by
  funext s
  cases h : s.room with
  | none =>
      have e := write_unlimited h bs
      have h' : ({ s with written := s.written ++ bs } : Sink).room = none := h
      rw [Transfer.bind_of_ok e, write_unlimited h, append_list_append]
      exact (write_unlimited h' cs).symm
  | some n =>
      by_cases hb : bs.length ≤ n
      · have e : write bs s = (.ok (),
            { s with written := s.written ++ bs, room := some (n - bs.length) }) := by
          simp [write, h, hb]
        rw [Transfer.bind_of_ok e]
        have hn : bs.length + cs.length ≤ n ↔ cs.length ≤ n - bs.length := by omega
        simp only [write, h, List.length_append, hn]
        split
        · have hs : n - (bs.length + cs.length) = n - bs.length - cs.length := by omega
          simp [hs, append_list_append]
        · rw [List.take_append, List.take_of_length_le hb, append_list_append]
      · have e : write bs s = (.error (.device .full),
            { s with written := s.written ++ bs.take n, room := some 0 }) := by
          simp [write, h, hb]
        rw [Transfer.bind_of_error e]
        have hn : ¬bs.length + cs.length ≤ n := by omega
        have ht : (bs ++ cs).take n = bs.take n := List.take_append_of_le_length (by omega)
        simp [write, h, hn, ht]

theorem write_eq_put (bs : List UInt8) : write bs = put bs (.ok ()) := by
  simp [put, Transfer.ofExcept]

theorem ofExcept_eq_put (r : Except Fault α) : Transfer.ofExcept r = put [] r := by
  simp [put, write_nil]

/-- Writing one part after another joins their bytes. -/
theorem put_bind {f : α → Transfer Sink β} {bs cs : List UInt8} {a : α} {r : Except Fault β}
    (h : f a = put cs r) : put bs (.ok a) >>= f = put (bs ++ cs) r := by
  simp [put, write_append, Transfer.ofExcept, h]

/-- Nothing is written behind a fault. -/
theorem put_error_bind (bs : List UInt8) (fault : Fault) (f : α → Transfer Sink β) :
    put bs (.error fault) >>= f = put bs (.error fault) := by
  have hf : (Transfer.fail fault >>= f) = Transfer.fail fault := rfl
  simp [put, Transfer.ofExcept, hf]

/-- A sink with room for everything takes the bytes and gives the answer. -/
theorem put_unlimited {s : Sink} (h : s.room = none) (bs : List UInt8) (r : Except Fault α) :
    put bs r s = (r, { s with written := s.written ++ bs }) := by
  rw [put, Transfer.bind_of_ok (write_unlimited h bs)]
  cases r <;> rfl

end Sink

/-! ### Texts -/

/-- A text is no longer than the limit. -/
def TextFits (text : String) : Prop := text.utf8ByteSize ≤ textLimit

instance (text : String) : Decidable (TextFits text) := by
  unfold TextFits
  infer_instance

/-- The bytes of a text, their number first. -/
def textBytes (text : String) : List UInt8 :=
  LittleEndian.word32 (UInt32.ofNat (Text.Utf8.encode text).length) ++ Text.Utf8.encode text

theorem checkLength_of_le {n : Nat} (h : n ≤ textLimit) : checkLength n = .ok () := by
  simp [checkLength, Nat.not_lt.2 h]

theorem checkLength_of_lt {n : Nat} (h : textLimit < n) :
    checkLength n = .error (.malformed (.textTooLong n)) := by
  simp [checkLength, h]

namespace Sink

theorem writeText_of_fits {text : String} (h : TextFits text) :
    writeText text = put (textBytes text) (.ok ()) := by
  have hc : checkLength (Text.Utf8.encode text).length = .ok () := checkLength_of_le h
  rw [writeText, hc, ofExcept_eq_put, textBytes, ← List.nil_append (_ ++ _)]
  refine put_bind ?_
  simp only [writeWord32, write_eq_put]
  exact put_bind rfl

/-- Nothing is written of a text that is too long. -/
theorem writeText_of_not_fits {text : String} (h : ¬TextFits text) :
    writeText text = put [] (.error (.malformed (.textTooLong text.utf8ByteSize))) := by
  have hc : checkLength (Text.Utf8.encode text).length =
      .error (.malformed (.textTooLong text.utf8ByteSize)) := checkLength_of_lt (Nat.lt_of_not_le h)
  rw [writeText, hc, ofExcept_eq_put]
  exact put_error_bind [] _ _

end Sink

/-! ### Headers -/

/-- The texts of a header. -/
def Header.texts (h : Header) : List String :=
  [h.provenance.language, h.provenance.platform, h.provenance.program, h.provenance.build]

/-- No text of the header is longer than the limit. -/
def Header.Fits (h : Header) : Prop := ∀ text ∈ h.texts, TextFits text

/-- The bytes of a header. -/
def Header.bytes (h : Header) : List UInt8 :=
  magic ++ ([formatVersion] ++ (textBytes h.provenance.language ++
    (textBytes h.provenance.platform ++ (textBytes h.provenance.program ++
      (textBytes h.provenance.build ++ (LittleEndian.word32 h.side ++
        LittleEndian.word64 h.settingsDigest))))))

theorem Header.fits_iff {h : Header} :
    h.Fits ↔ TextFits h.provenance.language ∧ TextFits h.provenance.platform ∧
      TextFits h.provenance.program ∧ TextFits h.provenance.build := by
  simp [Header.Fits, Header.texts]

namespace Sink

theorem writeHeader_of_fits {h : Header} (hf : h.Fits) :
    writeHeader h = put h.bytes (.ok ()) := by
  obtain ⟨hl, hp, hg, hb⟩ := Header.fits_iff.1 hf
  simp only [writeHeader, writeByte, writeWord32, writeWord64, write_eq_put,
    writeText_of_fits hl, writeText_of_fits hp, writeText_of_fits hg, writeText_of_fits hb]
  exact put_bind (put_bind (put_bind (put_bind (put_bind (put_bind (put_bind rfl))))))

/-- A transfer that comes upon a text that is too long. -/
def Refused {α : Type} (t : Transfer Sink α) : Prop :=
  ∃ bs n, textLimit < n ∧ t = put bs (.error (.malformed (.textTooLong n)))

theorem Refused.bind {α β : Type} {t : Transfer Sink α} {f : α → Transfer Sink β}
    (h : Refused t) : Refused (t >>= f) := by
  obtain ⟨bs, n, hn, rfl⟩ := h
  exact ⟨bs, n, hn, put_error_bind bs _ f⟩

theorem refused_put_bind {α β : Type} {f : α → Transfer Sink β} {bs : List UInt8} {a : α}
    (h : Refused (f a)) : Refused (put bs (.ok a) >>= f) := by
  obtain ⟨cs, n, hn, h⟩ := h
  exact ⟨bs ++ cs, n, hn, put_bind h⟩

/-- What starts with a text is refused if the text is too long or what follows is refused. -/
theorem refused_writeText_bind {α : Type} {text : String} {f : Unit → Transfer Sink α}
    (h : TextFits text → Refused (f ())) : Refused (writeText text >>= f) := by
  by_cases ht : TextFits text
  · rw [writeText_of_fits ht]
    exact refused_put_bind (h ht)
  · refine Refused.bind ⟨[], text.utf8ByteSize, Nat.lt_of_not_le ht, ?_⟩
    exact writeText_of_not_fits ht

theorem refused_writeHeader {h : Header} (hf : ¬h.Fits) : Refused (writeHeader h) := by
  simp only [writeHeader, writeByte, write_eq_put]
  refine refused_put_bind (refused_put_bind ?_)
  refine refused_writeText_bind fun hl => refused_writeText_bind fun hp => ?_
  refine refused_writeText_bind fun hg => refused_writeText_bind fun hb => ?_
  exact absurd (Header.fits_iff.2 ⟨hl, hp, hg, hb⟩) hf

end Sink

/-! ### Frames -/

/-- The texts of an action. -/
def Action.texts : Action → List String
  | .command line _ => [line]
  | .reset => []

/-- The bytes of an action. -/
def Action.bytes : Action → List UInt8
  | .command line status => [commandTag] ++ (textBytes line ++ [statusTag status])
  | .reset => [resetTag]

/-- No text of the frame is longer than the limit. -/
def Frame.Fits (f : Frame) : Prop := ∀ text ∈ f.action.texts, TextFits text

/-- The bytes of a frame. -/
def Frame.bytes (f : Frame) : List UInt8 :=
  LittleEndian.word64 f.seq ++ (f.action.bytes ++ LittleEndian.word64 f.digest)

theorem Frame.fits_of_command {f : Frame} {line : String} {status : Status}
    (h : f.action = .command line status) : f.Fits ↔ TextFits line := by
  simp [Frame.Fits, h, Action.texts]

theorem Frame.fits_of_reset {f : Frame} (h : f.action = .reset) : f.Fits := by
  simp [Frame.Fits, h, Action.texts]

namespace Sink

theorem writeAction_of_fits {action : Action} (h : ∀ text ∈ action.texts, TextFits text) :
    writeAction action = put action.bytes (.ok ()) := by
  cases action with
  | reset => exact write_eq_put [resetTag]
  | command line status =>
      have hl : TextFits line := h line (List.mem_singleton.2 rfl)
      simp only [writeAction, writeByte, write_eq_put, writeText_of_fits hl]
      exact put_bind (put_bind rfl)

theorem writeAction_of_not_fits {line : String} {status : Status} (h : ¬TextFits line) :
    writeAction (.command line status) =
      put [commandTag] (.error (.malformed (.textTooLong line.utf8ByteSize))) := by
  simp only [writeAction, writeByte, write_eq_put, writeText_of_not_fits h]
  rw [put_error_bind]
  exact put_bind rfl

theorem writeFrame_of_fits {f : Frame} (h : f.Fits) : writeFrame f = put f.bytes (.ok ()) := by
  simp only [writeFrame, writeWord64, write_eq_put, writeAction_of_fits h]
  exact put_bind (put_bind rfl)

/-- Of a frame with a line that is too long, the sequence number and the tag are written. -/
theorem writeFrame_command_of_not_fits {f : Frame} {line : String} {status : Status}
    (ha : f.action = .command line status) (h : ¬TextFits line) :
    writeFrame f = put (LittleEndian.word64 f.seq ++ [commandTag])
      (.error (.malformed (.textTooLong line.utf8ByteSize))) := by
  simp only [writeFrame, writeWord64, write_eq_put, ha, writeAction_of_not_fits h]
  exact put_bind (put_error_bind _ _ _)

theorem writeFrame_of_not_fits {f : Frame} (h : ¬f.Fits) :
    ∃ n, textLimit < n ∧ writeFrame f =
      put (LittleEndian.word64 f.seq ++ [commandTag]) (.error (.malformed (.textTooLong n))) := by
  cases ha : f.action with
  | reset => exact absurd (Frame.fits_of_reset ha) h
  | command line status =>
      rw [Frame.fits_of_command ha] at h
      exact ⟨line.utf8ByteSize, Nat.lt_of_not_le h, writeFrame_command_of_not_fits ha h⟩

theorem refused_writeFrame {f : Frame} (h : ¬f.Fits) : Refused (writeFrame f) := by
  obtain ⟨n, hn, e⟩ := writeFrame_of_not_fits h
  exact ⟨_, n, hn, e⟩

/-! ### Whole recordings -/

/-- Frames are written one after another. -/
def writeFrames : List Frame → Transfer Sink Unit
  | [] => pure ()
  | f :: fs => do
    writeFrame f
    writeFrames fs

/-- A header is written, then frames. -/
def writeRecording (h : Header) (fs : List Frame) : Transfer Sink Unit := do
  writeHeader h
  writeFrames fs

theorem writeFrames_of_fits {fs : List Frame} (h : ∀ f ∈ fs, f.Fits) :
    writeFrames fs = put (fs.flatMap Frame.bytes) (.ok ()) := by
  induction fs with
  | nil => exact ofExcept_eq_put (.ok ())
  | cons f fs ih =>
      rw [writeFrames, writeFrame_of_fits (h f List.mem_cons_self), List.flatMap_cons]
      exact put_bind (ih fun g hg => h g (List.mem_cons_of_mem f hg))

theorem refused_writeFrames {fs : List Frame} (h : ¬∀ f ∈ fs, f.Fits) :
    Refused (writeFrames fs) := by
  induction fs with
  | nil => exact absurd (by simp) h
  | cons f fs ih =>
      rw [writeFrames]
      by_cases hf : f.Fits
      · rw [writeFrame_of_fits hf]
        exact refused_put_bind (ih fun hfs => h (List.forall_mem_cons.2 ⟨hf, hfs⟩))
      · exact (refused_writeFrame hf).bind

theorem writeRecording_of_fits {h : Header} {fs : List Frame} (hf : h.Fits)
    (hfs : ∀ f ∈ fs, f.Fits) :
    writeRecording h fs = put (h.bytes ++ fs.flatMap Frame.bytes) (.ok ()) := by
  rw [writeRecording, writeHeader_of_fits hf]
  exact put_bind (writeFrames_of_fits hfs)

theorem refused_writeRecording {h : Header} {fs : List Frame}
    (hn : ¬(h.Fits ∧ ∀ f ∈ fs, f.Fits)) : Refused (writeRecording h fs) := by
  rw [writeRecording]
  by_cases hf : h.Fits
  · rw [writeHeader_of_fits hf]
    exact refused_put_bind (refused_writeFrames fun hfs => hn ⟨hf, hfs⟩)
  · exact (refused_writeHeader hf).bind

/-! ### Output -/

/-- The bytes that are written where there is room for everything, or the fault that comes up. -/
def output (t : Transfer Sink Unit) : Except Fault (List UInt8) :=
  match t {} with
  | (.ok (), s) => .ok s.bytes
  | (.error fault, _) => .error fault

theorem output_put (bs : List UInt8) (r : Except Fault Unit) :
    output (put bs r) = r.map fun _ => bs := by
  have h : put bs r {} = (r, { written := #[] ++ bs }) := put_unlimited rfl bs r
  rw [output, h]
  cases r <;> simp [bytes, Except.map]

theorem Refused.output_ne_ok {t : Transfer Sink Unit} (h : Refused t) (bs : List UInt8) :
    output t ≠ .ok bs := by
  obtain ⟨cs, n, _, rfl⟩ := h
  simp [output_put, Except.map]

/-- A frame can be written exactly if its texts fit. -/
theorem output_writeFrame_eq_ok_iff {f : Frame} {bs : List UInt8} :
    output (writeFrame f) = .ok bs ↔ f.Fits ∧ bs = f.bytes := by
  by_cases hf : f.Fits
  · simp [writeFrame_of_fits hf, output_put, Except.map, hf, eq_comm]
  · simp [hf, (refused_writeFrame hf).output_ne_ok bs]

end Sink

/-! ### Writers -/

namespace Writer

/-- The writer after more frames, where there is room for everything. -/
def extend (w : Writer) (fs : List Frame) : Writer :=
  { sink := { w.sink with written := w.sink.written ++ fs.flatMap Frame.bytes }
    framesWritten := w.framesWritten + fs.length }

@[simp] theorem extend_nil (w : Writer) : w.extend [] = w := by
  simp [extend]

theorem extend_append (w : Writer) (fs gs : List Frame) :
    w.extend (fs ++ gs) = (w.extend fs).extend gs := by
  simp [extend, Sink.append_list_append, Nat.add_assoc]

@[simp] theorem bytes_extend (w : Writer) (fs : List Frame) :
    (w.extend fs).sink.bytes = w.sink.bytes ++ fs.flatMap Frame.bytes :=
  Sink.bytes_append w.sink (fs.flatMap Frame.bytes)

theorem start_of_fits {h : Header} {s : Sink} (hs : s.room = none) (hf : h.Fits) :
    start h s = (.ok (), { sink := { s with written := s.written ++ h.bytes } }) := by
  rw [start, Sink.writeHeader_of_fits hf, Sink.put_unlimited hs]

theorem writeFrame_of_fits {w : Writer} {f : Frame} (hw : w.sink.room = none) (hf : f.Fits) :
    writeFrame f w = (.ok (), w.extend [f]) := by
  have h := Sink.put_unlimited hw f.bytes (.ok ())
  rw [← Sink.writeFrame_of_fits hf] at h
  simp [writeFrame, h, extend]

/-- The frame that records an action behind `n` others. -/
def frameBehind (n : Nat) (action : Action) (world : World) : Frame :=
  ⟨UInt64.ofNat (n + 1), action, world.digest⟩

theorem digest_frameBehind (n : Nat) (action : Action) (world : World) :
    (frameBehind n action world).digest = world.digest := by
  simp only [frameBehind]

theorem record_of_fits {w : Writer} {action : Action} {world : World} (hw : w.sink.room = none)
    (hf : ∀ text ∈ action.texts, TextFits text) :
    record action world w = (.ok (), w.extend [frameBehind w.framesWritten action world]) :=
  writeFrame_of_fits hw hf

end Writer

end TorusRobot.Recording
