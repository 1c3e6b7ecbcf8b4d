/-
**Recording until there is no more room.**

A sink may run out of room in the midst of a recording, wherever it is.  It holds then what the
recording begins with, byte for byte; the call for which there was not enough room has failed, and
so does every later one, without another byte.  The frames that were counted are those that are
there whole.  Whoever reads the recording gets exactly these frames, and can tell from the way
reading ends whether more was to come.

Main definitions:

* `TorusRobot.Recording.Sink.fill` — a sink after bytes for which there may not be enough room;
* `TorusRobot.Recording.recordingBytes` — the bytes of a whole recording.

Main results:

* `TorusRobot.Recording.Sink.put_limited` — writing where there is not room for everything;
* `TorusRobot.Recording.Writer.recordEach_of_full` — without room, every call fails and writes
  nothing;
* `TorusRobot.Recording.Writer.recordEach_limited` — what a series of calls does with limited room;
* `TorusRobot.Recording.cut_recording_reads_back` — **what is left of a recording is read back**.
-/
import TorusRobot.Proofs.Recording.Entries
import TorusRobot.Proofs.Recording.Truncation

set_option relaxedAutoImplicit false
set_option autoImplicit false

namespace TorusRobot.Recording

/-! ### Sinks with limited room -/

namespace Sink

/-- A sink with room for `n` bytes after as many of `bs` as fit. -/
def fill (s : Sink) (n : Nat) (bs : List UInt8) : Sink :=
  { s with written := s.written ++ bs.take n, room := some (n - bs.length) }

@[simp] theorem bytes_fill (s : Sink) (n : Nat) (bs : List UInt8) :
    (s.fill n bs).bytes = s.bytes ++ bs.take n := by
  simp [fill, bytes]

@[simp] theorem room_fill (s : Sink) (n : Nat) (bs : List UInt8) :
    (s.fill n bs).room = some (n - bs.length) := rfl

theorem fill_nil {s : Sink} {n : Nat} (h : s.room = some n) : s.fill n [] = s := by
  cases s
  simp_all [fill]

/-- More bytes fill the room that is left. -/
theorem fill_append (s : Sink) (n : Nat) (bs cs : List UInt8) :
    s.fill n (bs ++ cs) = (s.fill n bs).fill (n - bs.length) cs := by
  simp only [fill, List.take_append, append_list_append, List.length_append, Nat.sub_add_eq]

/-- Where there is no room left, more bytes make no difference. -/
theorem fill_append_of_le {n : Nat} {bs : List UInt8} (h : n ≤ bs.length) (s : Sink)
    (cs : List UInt8) : s.fill n (bs ++ cs) = s.fill n bs := by
  have hroom : n - bs.length = 0 := Nat.sub_eq_zero_of_le h
  rw [fill_append, hroom]
  simp [fill, hroom]

/-- **Writing where there may not be room for everything**: what fits is written, and if something
does not fit, the fault of the device takes the place of the answer. -/
theorem put_limited {α : Type} {s : Sink} {n : Nat} (h : s.room = some n) (bs : List UInt8)
    (r : Except Fault α) :
    put bs r s = (if bs.length ≤ n then r else .error (.device .full), s.fill n bs) := by
  by_cases hn : bs.length ≤ n
  · have hwrite : write bs s = (.ok (), s.fill n bs) := by
      simp [write, h, hn, fill, List.take_of_length_le hn]
    rw [put, Transfer.bind_of_ok hwrite, if_pos hn]
    cases r <;> rfl
  · have hroom : n - bs.length = 0 := by omega
    have hwrite : write bs s = (.error (.device .full), s.fill n bs) := by
      simp [write, h, hn, fill, hroom]
    rw [put, Transfer.bind_of_error hwrite, if_neg hn]

/-- Without room nothing is written, and the device says so. -/
theorem write_of_full {s : Sink} (h : s.room = some 0) {bs : List UInt8} (hbs : bs ≠ []) :
    write bs s = (.error (.device .full), s) := by
  have hlen : ¬bs.length ≤ 0 := fun hle => hbs (List.length_eq_zero_iff.1 (Nat.le_zero.1 hle))
  cases s
  simp_all [write]

theorem writeFrame_of_full {s : Sink} (h : s.room = some 0) (f : Frame) :
    writeFrame f s = (.error (.device .full), s) := by
  have hbs : LittleEndian.word64 f.seq ≠ [] := by
    intro hnil
    have hlen := LittleEndian.length_word64 f.seq
    rw [hnil] at hlen
    cases hlen
  exact Transfer.bind_of_error (write_of_full h hbs)

end Sink

/-! ### Writers with limited room -/

namespace Writer

/-- **Without room every call fails and writes nothing**, whatever is to be recorded. -/
theorem recordEach_of_full {w : Writer} (hw : w.sink.room = some 0) (es : List Entry) :
    recordEach es w = (List.replicate es.length (.error (.device .full)), w) := by
  induction es with
  | nil => rfl
  | cons e es ih =>
      have hrecord : record e.action e.world w = (.error (.device .full), w) :=
        writeFrame_of_error (Sink.writeFrame_of_full hw _)
      rw [recordEach_cons hrecord, ih]
      rfl

/-- A header for which there may not be enough room. -/
theorem start_limited {h : Header} (hf : h.Fits) {s : Sink} {n : Nat} (hs : s.room = some n) :
    start h s =
      (if h.bytes.length ≤ n then .ok () else .error (.device .full),
        { sink := s.fill n h.bytes }) := by
  rw [start, Sink.writeHeader_of_fits hf, Sink.put_limited hs]

/-- A frame for which there is enough room is counted. -/
theorem record_of_le {w : Writer} {e : Entry} {n : Nat} (hw : w.sink.room = some n) (he : e.Fits)
    (hn : (frameBehind w.framesWritten e.action e.world).bytes.length ≤ n) :
    record e.action e.world w =
      (.ok (),
        { sink := w.sink.fill n (frameBehind w.framesWritten e.action e.world).bytes
          framesWritten := w.framesWritten + 1 }) := by
  have hwrite := Sink.writeFrame_of_fits (f := frameBehind w.framesWritten e.action e.world) he
  have hput := Sink.put_limited hw (frameBehind w.framesWritten e.action e.world).bytes (.ok ())
  rw [if_pos hn, ← hwrite] at hput
  exact writeFrame_of_ok hput

/-- A frame for which there is not enough room is not. -/
theorem record_of_lt {w : Writer} {e : Entry} {n : Nat} (hw : w.sink.room = some n) (he : e.Fits)
    (hn : n < (frameBehind w.framesWritten e.action e.world).bytes.length) :
    record e.action e.world w =
      (.error (.device .full),
        { w with
          sink := w.sink.fill n (frameBehind w.framesWritten e.action e.world).bytes }) := by
  have hwrite := Sink.writeFrame_of_fits (f := frameBehind w.framesWritten e.action e.world) he
  have hput := Sink.put_limited hw (frameBehind w.framesWritten e.action e.world).bytes (.ok ())
  rw [if_neg (Nat.not_le_of_lt hn), ← hwrite] at hput
  exact writeFrame_of_error hput

/-- **What a series of calls does with room for `n` bytes.**  The first `k` calls succeed and all
others fail, and from the first failure on nothing changes; the sink has taken as much of the frames
as fits, and these are `k` frames and the beginning of the next. -/
theorem recordEach_limited {w : Writer} {n : Nat} (hw : w.sink.room = some n) {es : List Entry}
    (hes : ∀ e ∈ es, e.Fits) :
    ∃ k part, k ≤ es.length ∧
      recordEach es w =
        (List.replicate k (.ok ()) ++ List.replicate (es.length - k) (.error (.device .full)),
          { sink := w.sink.fill n ((framesBehind w.framesWritten es).flatMap Frame.bytes)
            framesWritten := w.framesWritten + k }) ∧
      (∀ j, k < j → (recordEach (es.take j) w).2 = (recordEach es w).2) ∧
      ((framesBehind w.framesWritten es).flatMap Frame.bytes).take n =
        ((framesBehind w.framesWritten es).take k).flatMap Frame.bytes ++ part ∧
      Breaks part ((framesBehind w.framesWritten es).drop k) ∧
      (k < es.length → n ≤ ((framesBehind w.framesWritten es).flatMap Frame.bytes).length) := by
  induction es generalizing w n with
  | nil =>
      refine ⟨0, [], Nat.le_refl 0, ?_, by simp, by simp [framesBehind], rfl, ?_⟩
      · have hfill : w.sink.fill n [] = w.sink := Sink.fill_nil hw
        simp [recordEach, framesBehind, hfill]
      · intro hlt
        exact absurd hlt (Nat.lt_irrefl 0)
  | cons e es ih =>
      obtain ⟨he, hes⟩ := List.forall_mem_cons.1 hes
      have hle := record_of_le hw he
      have hlt := record_of_lt hw he
      rw [framesBehind, List.flatMap_cons]
      generalize frameBehind w.framesWritten e.action e.world = f at hle hlt ⊢
      by_cases hn : f.bytes.length ≤ n
      · -- the frame is written whole, and the others fill the room behind it
        obtain ⟨k, part, hk, hrun, hstill, htake, hbreaks, hroom⟩ :=
          ih (w := ⟨w.sink.fill n f.bytes, w.framesWritten + 1⟩) rfl hes
        refine ⟨k + 1, part, Nat.succ_le_succ hk, ?_, ?_, ?_, hbreaks, ?_⟩
        · rw [recordEach_cons (hle hn), hrun, Sink.fill_append, List.length_cons,
            Nat.add_sub_add_right, List.replicate_succ, List.cons_append, Nat.add_assoc,
            Nat.add_comm 1 k]
        · intro j hj
          obtain ⟨i, rfl⟩ := Nat.exists_eq_add_one_of_ne_zero (Nat.ne_zero_of_lt hj)
          rw [List.take_succ_cons, recordEach_cons (hle hn), recordEach_cons (hle hn)]
          exact hstill i (Nat.lt_of_succ_lt_succ hj)
        · rw [List.take_append, List.take_of_length_le hn, htake, List.take_succ_cons,
            List.flatMap_cons, List.append_assoc]
        · intro hlast
          have hrest : n - f.bytes.length ≤
              ((framesBehind (w.framesWritten + 1) es).flatMap Frame.bytes).length :=
            hroom (Nat.lt_of_succ_lt_succ hlast)
          rw [List.length_append]
          omega
      · -- the frame breaks off, and there is no room for anything behind it
        have hn := Nat.lt_of_not_le hn
        have hfull : n - f.bytes.length = 0 := Nat.sub_eq_zero_of_le (Nat.le_of_lt hn)
        have hsink : (w.sink.fill n f.bytes).room = some 0 := by rw [Sink.room_fill, hfull]
        refine ⟨0, f.bytes.take n, Nat.zero_le _, ?_, ?_, ?_, ⟨List.take_prefix n f.bytes, ?_⟩, ?_⟩
        · rw [recordEach_cons (hlt hn), recordEach_of_full hsink,
            Sink.fill_append_of_le (Nat.le_of_lt hn)]
          rfl
        · intro j hj
          obtain ⟨i, rfl⟩ := Nat.exists_eq_add_one_of_ne_zero (Nat.ne_zero_of_lt hj)
          rw [List.take_succ_cons, recordEach_cons (hlt hn), recordEach_cons (hlt hn),
            recordEach_of_full hsink, recordEach_of_full hsink]
        · exact List.take_append_of_le_length (Nat.le_of_lt hn)
        · rw [List.length_take]
          omega
        · intro _
          rw [List.length_append]
          omega

end Writer

/-! ### What is left of a recording -/

/-- The bytes of a whole recording of entries. -/
def recordingBytes (h : Header) (es : List Entry) : List UInt8 :=
  h.bytes ++ (Writer.framesBehind 0 es).flatMap Frame.bytes

section Cut

variable {h : Header} {es : List Entry} {limit : Nat}

/-- Where the header does not fit, only its beginning is left, and it cannot be opened. -/
theorem cut_in_header (hh : h.Fits) (es : List Entry) (hlt : limit < h.bytes.length) :
    ∃ w, Writer.start h { room := some limit } = (.error (.device .full), w) ∧
      w.sink.bytes = (recordingBytes h es).take limit ∧
      (∀ more, Writer.recordEach more w =
        (List.replicate more.length (.error (.device .full)), w)) ∧
      ∀ s : Source, s.Lasts → s.pending = (recordingBytes h es).take limit →
        Reader.ofSource s = .error (.device .endOfInput) := by
  have hstart := Writer.start_limited hh (s := { room := some limit }) rfl
  rw [if_neg (Nat.not_le_of_lt hlt)] at hstart
  have htake : (recordingBytes h es).take limit = h.bytes.take limit :=
    List.take_append_of_le_length (Nat.le_of_lt hlt)
  rw [htake]
  refine ⟨_, hstart, ?_, ?_, ?_⟩
  · rw [Sink.bytes_fill]
    rfl
  · intro more
    apply Writer.recordEach_of_full
    rw [Sink.room_fill, Nat.sub_eq_zero_of_le (Nat.le_of_lt hlt)]
  · intro s hs hp
    apply Reader.ofSource_of_starved hs hh
    · rw [hp]
      exact List.take_prefix limit h.bytes
    · rw [hp, List.length_take]
      omega

/-- Where the header fits, it is left with some frames and the beginning of the next. -/
theorem cut_behind_header (hh : h.Fits) (hes : ∀ e ∈ es, e.Fits) (hle : h.bytes.length ≤ limit) :
    ∃ w₀ w k part, Writer.start h { room := some limit } = (.ok (), w₀) ∧
      Writer.recordEach es w₀ =
        (List.replicate k (.ok ()) ++ List.replicate (es.length - k) (.error (.device .full)),
          w) ∧
      (∀ j, k < j → (Writer.recordEach (es.take j) w₀).2 = w) ∧
      w.sink.bytes = (recordingBytes h es).take limit ∧ w.framesWritten = k ∧
      (k < es.length → ∀ more, Writer.recordEach more w =
        (List.replicate more.length (.error (.device .full)), w)) ∧
      (recordingBytes h es).take limit =
        h.bytes ++ (((Writer.framesBehind 0 es).take k).flatMap Frame.bytes ++ part) ∧
      Breaks part ((Writer.framesBehind 0 es).drop k) := by
  have hstart := Writer.start_limited hh (s := { room := some limit }) rfl
  rw [if_pos hle] at hstart
  obtain ⟨k, part, hk, hrun, hstill, htake, hbreaks, hroom⟩ :=
    Writer.recordEach_limited (w := ⟨Sink.fill { room := some limit } limit h.bytes, 0⟩) rfl hes
  rw [hrun] at hstill
  refine ⟨_, _, k, part, hstart, hrun, hstill, ?_, Nat.zero_add k, ?_, ?_, hbreaks⟩
  · rw [Sink.bytes_fill, Sink.bytes_fill, recordingBytes, List.take_append, List.append_assoc]
    rfl
  · intro hlast more
    apply Writer.recordEach_of_full
    rw [Sink.room_fill, Nat.sub_eq_zero_of_le (hroom hlast)]
  · rw [recordingBytes, List.take_append, List.take_of_length_le hle, htake]

/-- **What is left of a recording is read back.**  A recording whose texts fit is made in a sink
with room for `limit` bytes.  Then the sink holds the first `limit` bytes of what it would hold with
room for everything.

* If they end in the header, the recording does not start, nothing can be added, and it cannot be
  opened: the bytes end too early.
* Otherwise it starts.  Some first calls succeed and all others fail; from the first failure on
  nothing is added, whatever else is to be recorded.  The frames counted are those that are there
  whole, and reading gives these frames.  Then it comes to the end if no bytes of another frame are
  there, to a fault that tells their number if there are fewer than eight, and to an early end of
  the bytes if there are more. -/
theorem cut_recording_reads_back (hh : h.Fits) (hes : ∀ e ∈ es, e.Fits) (limit : Nat) :
    (∃ w₀ w, Writer.start h {} = (.ok (), w₀) ∧
      Writer.recordEach es w₀ = (List.replicate es.length (.ok ()), w) ∧
      w.framesWritten = es.length ∧ w.sink.bytes = recordingBytes h es) ∧
    (limit < h.bytes.length → ∃ w,
      Writer.start h { room := some limit } = (.error (.device .full), w) ∧
      w.sink.bytes = (recordingBytes h es).take limit ∧
      (∀ more, Writer.recordEach more w =
        (List.replicate more.length (.error (.device .full)), w)) ∧
      ∀ s : Source, s.Lasts → s.pending = w.sink.bytes →
        Reader.ofSource s = .error (.device .endOfInput)) ∧
    (h.bytes.length ≤ limit → ∃ w₀ w k part,
      Writer.start h { room := some limit } = (.ok (), w₀) ∧
      Writer.recordEach es w₀ =
        (List.replicate k (.ok ()) ++ List.replicate (es.length - k) (.error (.device .full)),
          w) ∧
      (∀ j, k < j → (Writer.recordEach (es.take j) w₀).2 = w) ∧
      w.sink.bytes = (recordingBytes h es).take limit ∧ w.framesWritten = k ∧
      (k < es.length → ∀ more, Writer.recordEach more w =
        (List.replicate more.length (.error (.device .full)), w)) ∧
      w.sink.bytes =
        h.bytes ++ (((Writer.framesBehind 0 es).take k).flatMap Frame.bytes ++ part) ∧
      Breaks part ((Writer.framesBehind 0 es).drop k) ∧
      (∀ s : Source, s.Lasts → s.pending = w.sink.bytes →
        ∃ r r', Reader.ofSource s = .ok r ∧ r.header = h ∧
          r.readAll = ((Writer.framesBehind 0 es).take k, Reader.endingAt part.length, r')) ∧
      (0 < part.length → part.length < 8 → ∃ why,
        Reader.endingAt part.length = .error (.malformed why) ∧
        why.message = "truncated frame header: got " ++ Text.Decimal.text part.length ++
          " of 8 bytes for seq")) := by
  have hfits := Writer.fits_of_mem_framesBehind hes 0
  refine ⟨?_, ?_, ?_⟩
  · have hstart := Writer.start_of_fits (s := {}) rfl hh
    refine ⟨_, _, hstart, Writer.recordEach_of_fits rfl hes, ?_, ?_⟩
    · simp [Writer.extend]
    · rw [Writer.bytes_extend]
      simp [Sink.bytes, recordingBytes]
  · intro hlt
    obtain ⟨w, hstart, hbytes, hmore, hread⟩ := cut_in_header hh es hlt
    rw [← hbytes] at hread
    exact ⟨w, hstart, hbytes, hmore, hread⟩
  · intro hle
    obtain ⟨w₀, w, k, part, hstart, hrun, hstill, hbytes, hcount, hmore, htotal, hbreaks⟩ :=
      cut_behind_header hh hes hle
    rw [← hbytes] at htotal
    refine ⟨w₀, w, k, part, hstart, hrun, hstill, hbytes, hcount, hmore, htotal, hbreaks, ?_,
      Reader.endingAt_of_lt⟩
    intro s hs hp
    rw [htotal] at hp
    obtain ⟨r, hopen, hheader, hr, hrest⟩ := Reader.ofSource_of_pending hs hh hp
    obtain ⟨r', hread⟩ := Reader.readAll_of_breaks hr
      (fun f hf => hfits f (List.mem_of_mem_take hf))
      (fun f hf => hfits f (List.mem_of_mem_drop hf)) hrest hbreaks
    exact ⟨r, r', hopen, hheader, hread⟩

end Cut

/-- The hypotheses of `TorusRobot.Recording.cut_recording_reads_back` are met by a recording of one
reset with room for its header and three more bytes. -/
theorem cut_recording_reads_back_threeBytes :
    ∃ w₀ w, Writer.start plainHeader { room := some 45 } = (.ok (), w₀) ∧
      Writer.recordEach [⟨.reset, World.initial⟩] w₀ = ([.error (.device .full)], w) ∧
      w.framesWritten = 0 ∧
      ∃ r r', Reader.ofSource { pending := w.sink.bytes } = .ok r ∧
        r.readAll = ([], .error (.malformed (.truncatedSeq 3)), r') := by
  have hheader : plainHeader.Fits :=
    Header.fits_iff.2 ⟨by decide, by decide, by decide, by decide⟩
  have hreset : ∀ e ∈ [(⟨.reset, World.initial⟩ : Entry)], e.Fits :=
    List.forall_mem_singleton.2 (Entry.fits_of_reset rfl)
  have hlength : plainHeader.bytes.length = 42 := by decide
  have hframe : (Writer.frameBehind 0 .reset World.initial).bytes.length = 17 := rfl
  obtain ⟨-, -, hbehind⟩ := cut_recording_reads_back hheader hreset 45
  obtain ⟨w₀, w, k, part, hstart, hrun, -, hbytes, hcount, -, htotal, hbreaks, hread, -⟩ :=
    hbehind (by omega)
  have hsum := congrArg List.length (hbytes.symm.trans htotal)
  simp only [recordingBytes, Writer.framesBehind, List.flatMap_cons, List.flatMap_nil,
    List.length_take, List.length_append, List.length_nil, hlength, hframe] at hsum
  cases k with
  | zero =>
      have hpart : part.length = 3 := by
        rw [List.take_zero, List.flatMap_nil, List.length_nil] at hsum
        omega
      obtain ⟨r, r', hopen, -, hr⟩ := hread { pending := w.sink.bytes } rfl rfl
      rw [hpart] at hr
      exact ⟨w₀, w, hstart, hrun, hcount, r, r', hopen, hr⟩
  | succ k =>
      -- there is no room for the frame
      rw [List.take_succ_cons, List.flatMap_cons, List.length_append, hframe] at hsum
      omega

end TorusRobot.Recording
