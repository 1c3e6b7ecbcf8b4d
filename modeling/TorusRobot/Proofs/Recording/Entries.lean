/-
**Recording one thing after another.**

A writer may be asked to record more after a call has failed.  What it answers to a series of calls
and what it writes is determined by the entries and by the number of frames before them: an entry
that fits is a frame with the next number, and an entry that is refused takes no number but leaves
the beginning of a frame behind.

Main definitions:

* `TorusRobot.Recording.Entry` — an action to be recorded, and the world after it;
* `TorusRobot.Recording.Entry.answer` — what is answered where there is room;
* `TorusRobot.Recording.Writer.recordEach` — recording entries, whether or not one is refused;
* `TorusRobot.Recording.Writer.framesBehind` — the frames of entries;
* `TorusRobot.Recording.Writer.trace` — what a series of calls writes.

Main results:

* `TorusRobot.Recording.Writer.recordEach_of_room` — what a series of calls does where there is
  room;
* `TorusRobot.Recording.Writer.recordEach_of_fits` — in particular if nothing is refused;
* `TorusRobot.Recording.Writer.map_seq_framesBehind` — the frames are numbered one after another.
-/
import TorusRobot.Proofs.Recording.Writing

set_option relaxedAutoImplicit false
set_option autoImplicit false

namespace TorusRobot.Recording

/-! ### Entries -/

/-- An action to be recorded, and the world after it. -/
structure Entry where
  action : Action
  world : World
deriving DecidableEq, Repr

namespace Entry

/-- No text of the entry is longer than the limit. -/
def Fits (e : Entry) : Prop := ∀ text ∈ e.action.texts, TextFits text

instance (e : Entry) : Decidable e.Fits :=
  inferInstanceAs (Decidable (∀ text ∈ e.action.texts, TextFits text))

/-- What is answered to the entry where there is room for it. -/
def answer (e : Entry) : Except Fault Unit :=
  match e.action with
  | .command line _ => checkLength line.utf8ByteSize
  | .reset => .ok ()

/-- The entries that are not refused. -/
def accepted (es : List Entry) : List Entry := es.filter fun e => decide e.Fits

theorem fits_of_reset {e : Entry} (h : e.action = .reset) : e.Fits := by
  rw [Fits, h]
  exact List.forall_mem_nil _

theorem fits_of_command {e : Entry} {line : String} {status : Status}
    (h : e.action = .command line status) : e.Fits ↔ TextFits line := by
  rw [Fits, h]
  exact List.forall_mem_singleton

theorem answer_of_fits {e : Entry} (h : e.Fits) : e.answer = .ok () := by
  unfold answer
  split
  · rename_i line status ha
    exact checkLength_of_le ((fits_of_command ha).1 h)
  · rfl

/-- Only an entry with a line that is too long is refused. -/
theorem exists_of_not_fits {e : Entry} (h : ¬e.Fits) :
    ∃ line status, e.action = .command line status ∧ ¬TextFits line ∧
      e.answer = .error (.malformed (.textTooLong line.utf8ByteSize)) := by
  cases ha : e.action with
  | reset => exact absurd (fits_of_reset ha) h
  | command line status =>
      rw [fits_of_command ha] at h
      refine ⟨line, status, rfl, h, ?_⟩
      rw [answer, ha]
      exact checkLength_of_lt (Nat.lt_of_not_le h)

theorem accepted_cons_of_fits {e : Entry} (h : e.Fits) (es : List Entry) :
    accepted (e :: es) = e :: accepted es :=
  List.filter_cons_of_pos (decide_eq_true h)

theorem accepted_cons_of_not_fits {e : Entry} (h : ¬e.Fits) (es : List Entry) :
    accepted (e :: es) = accepted es :=
  List.filter_cons_of_neg (by simpa using h)

theorem accepted_of_fits {es : List Entry} (h : ∀ e ∈ es, e.Fits) : accepted es = es :=
  List.filter_eq_self.2 fun e he => decide_eq_true (h e he)

end Entry

/-! ### Calls one after another -/

namespace Writer

/-- Entries are recorded one after another, whatever is answered; the answers in order, and the
writer afterwards. -/
def recordEach : List Entry → Writer → List (Except Fault Unit) × Writer
  | [], w => ([], w)
  | e :: es, w =>
    let (answer, next) := record e.action e.world w
    let (answers, last) := recordEach es next
    (answer :: answers, last)

theorem recordEach_cons {e : Entry} {w next : Writer} {answer : Except Fault Unit}
    (h : record e.action e.world w = (answer, next)) (es : List Entry) :
    recordEach (e :: es) w = (answer :: (recordEach es next).1, (recordEach es next).2) := by
  simp only [recordEach, h]

theorem recordEach_concat (es : List Entry) (e : Entry) (w : Writer) :
    (recordEach (es ++ [e]) w).2 = (record e.action e.world (recordEach es w).2).2 := by
  induction es generalizing w with
  | nil => rfl
  | cons first es ih => exact ih _

/-- Confirming leaves a writer as it is. -/
theorem flush_snd (w : Writer) : w.flush.2 = w := by
  cases h : w.sink.flushFails <;> simp [flush, Sink.flush, h]

/-- The frames of entries behind `n` others. -/
def framesBehind (n : Nat) : List Entry → List Frame
  | [] => []
  | e :: es => frameBehind n e.action e.world :: framesBehind (n + 1) es

@[simp] theorem length_framesBehind (n : Nat) (es : List Entry) :
    (framesBehind n es).length = es.length := by
  induction es generalizing n with
  | nil => rfl
  | cons e es ih => rw [framesBehind, List.length_cons, ih, List.length_cons]

theorem framesBehind_append (n : Nat) (es es' : List Entry) :
    framesBehind n (es ++ es') = framesBehind n es ++ framesBehind (n + es.length) es' := by
  induction es generalizing n with
  | nil => rfl
  | cons e es ih =>
      rw [List.cons_append, framesBehind, ih, framesBehind, List.cons_append, List.length_cons,
        Nat.add_right_comm, Nat.add_assoc]

theorem fits_of_mem_framesBehind {es : List Entry} (h : ∀ e ∈ es, e.Fits) (n : Nat) :
    ∀ f ∈ framesBehind n es, f.Fits := by
  induction es generalizing n with
  | nil => exact List.forall_mem_nil _
  | cons e es ih =>
      obtain ⟨he, hes⟩ := List.forall_mem_cons.1 h
      exact List.forall_mem_cons.2 ⟨he, ih hes (n + 1)⟩

/-- **The frames are numbered one after another.** -/
theorem map_seq_framesBehind (n : Nat) (es : List Entry) :
    (framesBehind n es).map Frame.seq = (List.range' (n + 1) es.length).map UInt64.ofNat := by
  induction es generalizing n with
  | nil => rfl
  | cons e es ih =>
      rw [framesBehind, List.map_cons, ih, List.length_cons, List.range'_succ, List.map_cons]
      rfl

/-! ### Where there is room -/

/-- What is written of an entry that is refused: the next number and the tag. -/
def stump (n : Nat) : List UInt8 := LittleEndian.word64 (UInt64.ofNat (n + 1)) ++ [commandTag]

theorem length_stump (n : Nat) : (stump n).length = 9 := by
  rw [stump, List.length_append, LittleEndian.length_word64]
  rfl

/-- A frame that the sink has taken is counted. -/
theorem writeFrame_of_ok {w : Writer} {f : Frame} {s : Sink}
    (h : Sink.writeFrame f w.sink = (.ok (), s)) :
    writeFrame f w = (.ok (), { sink := s, framesWritten := w.framesWritten + 1 }) := by
  simp only [writeFrame, h]

/-- One that it has not taken whole is not. -/
theorem writeFrame_of_error {w : Writer} {f : Frame} {s : Sink} {fault : Fault}
    (h : Sink.writeFrame f w.sink = (.error fault, s)) :
    writeFrame f w = (.error fault, { w with sink := s }) := by
  simp only [writeFrame, h]

/-- A refused entry is not counted, but its beginning is written. -/
theorem record_of_not_fits {w : Writer} {e : Entry} (hw : w.sink.room = none) (hf : ¬e.Fits) :
    record e.action e.world w =
      (e.answer,
        { w with sink := { w.sink with written := w.sink.written ++ stump w.framesWritten } }) := by
  obtain ⟨line, status, ha, hline, hanswer⟩ := Entry.exists_of_not_fits hf
  have hput := Sink.put_unlimited hw (stump w.framesWritten)
    (.error (.malformed (.textTooLong line.utf8ByteSize)) : Except Fault Unit)
  have hwrite := Sink.writeFrame_command_of_not_fits
    (f := frameBehind w.framesWritten e.action e.world) ha hline
  rw [hanswer]
  exact writeFrame_of_error ((congrFun hwrite w.sink).trans hput)

/-- What entries behind `n` frames write. -/
def trace (n : Nat) : List Entry → List UInt8
  | [] => []
  | e :: es =>
    if e.Fits then (frameBehind n e.action e.world).bytes ++ trace (n + 1) es
    else stump n ++ trace n es

theorem trace_cons_of_fits {e : Entry} (h : e.Fits) (n : Nat) (es : List Entry) :
    trace n (e :: es) = (frameBehind n e.action e.world).bytes ++ trace (n + 1) es := by
  rw [trace, if_pos h]

theorem trace_cons_of_not_fits {e : Entry} (h : ¬e.Fits) (n : Nat) (es : List Entry) :
    trace n (e :: es) = stump n ++ trace n es := by
  rw [trace, if_neg h]

/-- **What a series of calls does where there is room.** -/
theorem recordEach_of_room {w : Writer} (hw : w.sink.room = none) (es : List Entry) :
    recordEach es w =
      (es.map Entry.answer,
        { sink := { w.sink with written := w.sink.written ++ trace w.framesWritten es }
          framesWritten := w.framesWritten + (Entry.accepted es).length }) := by
  induction es generalizing w with
  | nil => simp [recordEach, trace, Entry.accepted]
  | cons e es ih =>
      by_cases he : e.Fits
      · have hrecord : record e.action e.world w = _ := record_of_fits hw he
        have hroom :
            (w.extend [frameBehind w.framesWritten e.action e.world]).sink.room = none := hw
        rw [recordEach_cons hrecord, ih hroom, Entry.accepted_cons_of_fits he,
          trace_cons_of_fits he, List.map_cons, Entry.answer_of_fits he]
        simp [extend, Sink.append_list_append, Nat.add_assoc, Nat.add_comm 1]
      · have hrecord := record_of_not_fits hw he
        rw [recordEach_cons hrecord, ih (by exact hw), Entry.accepted_cons_of_not_fits he,
          trace_cons_of_not_fits he, List.map_cons]
        simp [Sink.append_list_append]

/-- What is written is what the frames of the accepted entries take, and nine bytes for every entry
that is refused. -/
theorem length_trace (n : Nat) (es : List Entry) :
    (trace n es).length =
      ((framesBehind n (Entry.accepted es)).flatMap Frame.bytes).length +
        9 * (es.length - (Entry.accepted es).length) := by
  induction es generalizing n with
  | nil => rfl
  | cons e es ih =>
      have hle : (Entry.accepted es).length ≤ es.length := List.length_filter_le _ es
      by_cases he : e.Fits
      · rw [trace_cons_of_fits he, Entry.accepted_cons_of_fits he, framesBehind, List.flatMap_cons,
          List.length_append, List.length_append, ih, List.length_cons, List.length_cons]
        omega
      · rw [trace_cons_of_not_fits he, Entry.accepted_cons_of_not_fits he, List.length_append,
          length_stump, ih, List.length_cons]
        omega

/-- If nothing is refused, the frames are written one after another. -/
theorem trace_of_fits {es : List Entry} (h : ∀ e ∈ es, e.Fits) (n : Nat) :
    trace n es = (framesBehind n es).flatMap Frame.bytes := by
  induction es generalizing n with
  | nil => rfl
  | cons e es ih =>
      obtain ⟨he, hes⟩ := List.forall_mem_cons.1 h
      rw [trace_cons_of_fits he, ih hes, framesBehind, List.flatMap_cons]

/-- A series of calls that all succeed. -/
theorem recordEach_of_fits {w : Writer} (hw : w.sink.room = none) {es : List Entry}
    (h : ∀ e ∈ es, e.Fits) :
    recordEach es w =
      (List.replicate es.length (.ok ()), w.extend (framesBehind w.framesWritten es)) := by
  have hanswers : es.map Entry.answer = List.replicate es.length (.ok ()) := by
    rw [List.eq_replicate_iff]
    refine ⟨List.length_map _, ?_⟩
    intro answer hmem
    obtain ⟨e, he, rfl⟩ := List.mem_map.1 hmem
    exact Entry.answer_of_fits (h e he)
  rw [recordEach_of_room hw, hanswers, Entry.accepted_of_fits h, trace_of_fits h, extend,
    length_framesBehind]

end Writer

end TorusRobot.Recording
