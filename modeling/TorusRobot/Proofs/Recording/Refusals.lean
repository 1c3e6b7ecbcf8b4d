/-
**Recordings in which something was refused.**

The length of a line is looked at only when its turn comes to be written.  So a call that is refused
because its line is too long takes no number and is not counted, but it is not without effect: the
number that the frame would have had and the tag of a command have been written before.  These nine
bytes stay, and as long as there is room nothing else is wrong with the recording: all that came
before them is read back.  What comes behind them is not: a recording is read back as the frames
that were counted exactly if nothing was refused.

Main definitions:

* `TorusRobot.Recording.Entry.beforeRefusal` — the entries before the first one that is refused.

Main results:

* `TorusRobot.Recording.Writer.trace_beforeRefusal` — what is written before anything is refused;
* `TorusRobot.Recording.Reader.readAll_trace_iff` — a recording reads back as the frames counted
  exactly if nothing was refused;
* `TorusRobot.Recording.refused_entries_leave_stumps` — **what a refusal does to a recording**.
-/
import TorusRobot.Proofs.Recording.Entries
import TorusRobot.Proofs.Recording.RoundTrip

set_option relaxedAutoImplicit false
set_option autoImplicit false

namespace TorusRobot.Recording

/-! ### Before and behind a refusal -/

namespace Entry

/-- The entries before the first one that is refused. -/
def beforeRefusal (es : List Entry) : List Entry := es.takeWhile fun e => decide e.Fits

theorem beforeRefusal_cons_of_fits {e : Entry} (h : e.Fits) (es : List Entry) :
    beforeRefusal (e :: es) = e :: beforeRefusal es := by
  simp [beforeRefusal, h]

theorem beforeRefusal_cons_of_not_fits {e : Entry} (h : ¬e.Fits) (es : List Entry) :
    beforeRefusal (e :: es) = [] := by
  simp [beforeRefusal, h]

theorem fits_of_mem_beforeRefusal {es : List Entry} : ∀ e ∈ beforeRefusal es, e.Fits := by
  have hall : (beforeRefusal es).all (fun e => decide e.Fits) = true := List.all_takeWhile
  intro e he
  exact of_decide_eq_true (List.all_eq_true.1 hall e he)

/-- All entries are accepted exactly if none is refused. -/
theorem length_accepted_eq_iff {es : List Entry} :
    (accepted es).length = es.length ↔ ∀ e ∈ es, e.Fits := by
  rw [accepted, List.length_filter_eq_length_iff]
  simp only [decide_eq_true_eq]

end Entry

/-- What comes before the first refusal is written frame by frame. -/
theorem Writer.trace_beforeRefusal (n : Nat) (es : List Entry) :
    ∃ rest, trace n es =
      (framesBehind n (Entry.beforeRefusal es)).flatMap Frame.bytes ++ rest := by
  induction es generalizing n with
  | nil => exact ⟨[], rfl⟩
  | cons e es ih =>
      by_cases he : e.Fits
      · obtain ⟨rest, hrest⟩ := ih (n + 1)
        refine ⟨rest, ?_⟩
        rw [trace_cons_of_fits he, hrest, Entry.beforeRefusal_cons_of_fits he, framesBehind,
          List.flatMap_cons, List.append_assoc]
      · refine ⟨trace n (e :: es), ?_⟩
        rw [Entry.beforeRefusal_cons_of_not_fits he]
        rfl

namespace Reader

variable {r : Reader} {es : List Entry}

/-- **A recording reads back as the frames that were counted exactly if nothing was refused**: of
every refusal nine bytes are left that no frame accounts for. -/
theorem readAll_trace_iff (hs : r.source.Lasts) (hp : r.source.pending = Writer.trace 0 es) :
    (∃ r', r.readAll = (Writer.framesBehind 0 (Entry.accepted es), .ok (), r')) ↔
      ∀ e ∈ es, e.Fits := by
  constructor
  · rintro ⟨r', hr⟩
    obtain ⟨-, rest, hrest, hok, -⟩ := pending_of_readAll hs hr
    rw [hok.1 rfl, List.append_nil, hp] at hrest
    have hlength := Writer.length_trace 0 es
    have hle : (Entry.accepted es).length ≤ es.length := List.length_filter_le _ es
    rw [hrest] at hlength
    rw [← Entry.length_accepted_eq_iff]
    omega
  · intro hfits
    rw [Writer.trace_of_fits hfits] at hp
    rw [Entry.accepted_of_fits hfits]
    exact readAll_of_pending_end hs (Writer.fits_of_mem_framesBehind hfits 0) hp

/-- What comes before the first refusal is read back. -/
theorem prefix_readAll_trace (hs : r.source.Lasts) (hp : r.source.pending = Writer.trace 0 es) :
    Writer.framesBehind 0 (Entry.beforeRefusal es) <+: r.readAll.1 := by
  obtain ⟨rest, hrest⟩ := Writer.trace_beforeRefusal 0 es
  have hbefore : ∀ e ∈ Entry.beforeRefusal es, e.Fits := Entry.fits_of_mem_beforeRefusal
  have hfits := Writer.fits_of_mem_framesBehind hbefore 0
  rw [hrest] at hp
  obtain ⟨r', -, -, hr⟩ := readAll_of_pending hs hfits hp
  rw [hr]
  exact List.prefix_append _ _

end Reader

/-! ### Refusals -/

/-- **What a refusal does to a recording.**  On a sink with room for everything, an entry that fits
is written as a frame and counted.  One whose line is too long is refused for that reason and not
counted; but nine bytes are written, the next number and the tag of a command.

In a whole recording the frames are numbered from one up to the number counted, whatever was refused
in between.  The recording can be opened, and what came before the first refusal is read back.  But
it reads back as the frames that were counted, with the end behind them, exactly if nothing was
refused. -/
theorem refused_entries_leave_stumps {h : Header} (hh : h.Fits) :
    (∀ (w : Writer) (e : Entry), w.sink.room = none →
      (e.Fits → Writer.record e.action e.world w =
        (.ok (), w.extend [Writer.frameBehind w.framesWritten e.action e.world])) ∧
      (¬e.Fits → ∃ size w', textLimit < size ∧
        Writer.record e.action e.world w = (.error (.malformed (.textTooLong size)), w') ∧
        w'.framesWritten = w.framesWritten ∧
        w'.sink.bytes = w.sink.bytes ++
          (LittleEndian.word64 (UInt64.ofNat (w.framesWritten + 1)) ++ [commandTag]))) ∧
    (∀ es : List Entry, ∃ w₀ w, Writer.start h {} = (.ok (), w₀) ∧
      Writer.recordEach es w₀ = (es.map Entry.answer, w) ∧
      w.framesWritten = (Entry.accepted es).length ∧
      (Writer.framesBehind 0 (Entry.accepted es)).map Frame.seq =
        (List.range' 1 w.framesWritten).map UInt64.ofNat ∧
      ∀ s : Source, s.Lasts → s.pending = w.sink.bytes →
        ∃ r, Reader.ofSource s = .ok r ∧ r.header = h ∧
          Writer.framesBehind 0 (Entry.beforeRefusal es) <+: r.readAll.1 ∧
          ((∃ r', r.readAll = (Writer.framesBehind 0 (Entry.accepted es), .ok (), r')) ↔
            ∀ e ∈ es, e.Fits)) := by
  refine ⟨?_, ?_⟩
  · intro w e hw
    refine ⟨fun he => Writer.record_of_fits hw he, ?_⟩
    intro he
    obtain ⟨line, status, -, hline, hanswer⟩ := Entry.exists_of_not_fits he
    have hrecord := Writer.record_of_not_fits hw he
    rw [hanswer] at hrecord
    exact ⟨line.utf8ByteSize, _, Nat.lt_of_not_le hline, hrecord, rfl,
      Sink.bytes_append w.sink (Writer.stump w.framesWritten)⟩
  · intro es
    have hstart := Writer.start_of_fits (s := {}) rfl hh
    refine ⟨_, _, hstart, Writer.recordEach_of_room rfl es, Nat.zero_add _, ?_, ?_⟩
    · change _ = (List.range' 1 (0 + (Entry.accepted es).length)).map UInt64.ofNat
      rw [Writer.map_seq_framesBehind, Nat.zero_add, Nat.zero_add]
    · intro s hs hp
      have hbytes : s.pending = h.bytes ++ Writer.trace 0 es := by
        rw [hp]
        simp [Sink.bytes]
      obtain ⟨r, hopen, hheader, hr, hrest⟩ := Reader.ofSource_of_pending hs hh hbytes
      exact ⟨r, hopen, hheader, Reader.prefix_readAll_trace hr hrest,
        Reader.readAll_trace_iff hr hrest⟩

/-- A line of one byte more than the limit. -/
def overlong : String := "".pushn 'a' 65537

theorem utf8ByteSize_pushn (s : String) (c : Char) (n : Nat) :
    (s.pushn c n).utf8ByteSize = s.utf8ByteSize + n * c.utf8Size := by
  unfold String.pushn
  induction n with
  | zero => simp [Nat.repeat]
  | succ n ih =>
      rw [Nat.repeat, String.utf8ByteSize_push, ih, Nat.succ_mul, Nat.add_assoc]

theorem utf8ByteSize_overlong : overlong.utf8ByteSize = 65537 := by
  rw [overlong, utf8ByteSize_pushn]
  decide

/-- The hypothesis of `TorusRobot.Recording.refused_entries_leave_stumps` is met where a line that
is too long is refused before a reset is recorded: the reset is counted as the only frame, but it is
not what is read back. -/
theorem refused_entries_leave_stumps_overlong :
    ∃ w₀ w, Writer.start plainHeader {} = (.ok (), w₀) ∧
      Writer.recordEach [⟨.command overlong .ok, World.initial⟩, ⟨.reset, World.initial⟩] w₀ =
        ([.error (.malformed (.textTooLong 65537)), .ok ()], w) ∧
      w.framesWritten = 1 ∧
      ∃ r, Reader.ofSource { pending := w.sink.bytes } = .ok r ∧
        ∀ r', r.readAll ≠ ([Writer.frameBehind 0 .reset World.initial], .ok (), r') := by
  have hheader : plainHeader.Fits :=
    Header.fits_iff.2 ⟨by decide, by decide, by decide, by decide⟩
  have hline : ¬TextFits overlong := by
    rw [TextFits, utf8ByteSize_overlong]
    decide
  have hrefused : ¬Entry.Fits ⟨.command overlong .ok, World.initial⟩ := by
    rw [Entry.fits_of_command rfl]
    exact hline
  have hreset : Entry.Fits ⟨.reset, World.initial⟩ := Entry.fits_of_reset rfl
  have hanswer : Entry.answer ⟨.command overlong .ok, World.initial⟩ =
      .error (.malformed (.textTooLong 65537)) := by
    change checkLength overlong.utf8ByteSize = _
    rw [utf8ByteSize_overlong]
    rfl
  have haccepted : Entry.accepted [⟨.command overlong .ok, World.initial⟩,
      ⟨.reset, World.initial⟩] = [⟨.reset, World.initial⟩] := by
    rw [Entry.accepted_cons_of_not_fits hrefused, Entry.accepted_cons_of_fits hreset]
    rfl
  obtain ⟨-, hseries⟩ := refused_entries_leave_stumps hheader
  obtain ⟨w₀, w, hstart, hrun, hcount, -, hread⟩ :=
    hseries [⟨.command overlong .ok, World.initial⟩, ⟨.reset, World.initial⟩]
  obtain ⟨r, hopen, -, -, hback⟩ := hread { pending := w.sink.bytes } rfl rfl
  rw [List.map_cons, List.map_cons, List.map_nil, hanswer, Entry.answer_of_fits hreset] at hrun
  rw [haccepted] at hcount hback
  refine ⟨w₀, w, hstart, hrun, hcount, r, hopen, ?_⟩
  intro r' hr
  exact hrefused (hback.1 ⟨r', hr⟩ _ List.mem_cons_self)

end TorusRobot.Recording
