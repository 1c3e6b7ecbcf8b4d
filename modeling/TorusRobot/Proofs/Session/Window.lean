/-
**The journal is the end of everything that was written.**

Lines are written without end, and the journal shows the last of them: no more than its capacity,
and none from before it was last cleared.  Clearing parts what is written into stretches; the
journal shows the end of the last one, under numbers that count all lines ever written.  What had
to make room is, stretch by stretch, what was written beyond the capacity.  Numbers do not run out
here, so this covers any series of lines that a counter of fixed width can number.

Main definitions:

* `TorusRobot.Stretches` — a series that is parted now and then;
* `TorusRobot.Journal.Action`, `TorusRobot.Journal.run` — what can be done to a journal, and the
  entries that had to make room in a run;
* `TorusRobot.Journal.written` — what a run writes, parted where the journal is cleared;
* `TorusRobot.Journal.Shows` — the journal shows the end of what was written;
* `TorusRobot.Session.stretches` — the outcomes of a run, parted at its resets.

Main results:

* `TorusRobot.Journal.append_append` — writing a batch is writing its parts;
* `TorusRobot.Journal.Shows.append`, `TorusRobot.Journal.Shows.clear` — what a journal shows after
  an action;
* `TorusRobot.Journal.Shows.append_snd` — how many entries make room;
* `TorusRobot.Session.Logged.run` — the journal of a session;
* `TorusRobot.Session.journal_is_the_end` — **every run of a journal, and every run of a session**.
-/
import Mathlib.Algebra.GroupWithZero.Nat
import Mathlib.Data.List.DropRight
import TorusRobot.Proofs.Session.Gains

set_option relaxedAutoImplicit false
set_option autoImplicit false

namespace TorusRobot

/-! ### Stretches -/

/-- A series that is parted now and then. -/
structure Stretches (α : Type) where
  /-- The stretches that are over, oldest first. -/
  ended : List (List α) := []
  /-- The stretch that goes on. -/
  current : List α := []

namespace Stretches

variable {α β : Type}

/-- All stretches, oldest first. -/
def all (h : Stretches α) : List (List α) := h.ended ++ [h.current]

/-- The whole series. -/
def series (h : Stretches α) : List α := h.all.flatten

/-- The series goes on. -/
def extend (h : Stretches α) (as : List α) : Stretches α := { h with current := h.current ++ as }

/-- The series is parted. -/
def part (h : Stretches α) : Stretches α := ⟨h.all, []⟩

/-- What each stretch has beyond a capacity, added up. -/
def surplus (h : Stretches α) (capacity : Nat) : Nat :=
  (h.all.map fun as => as.length - capacity).sum

/-- Each element stands for several. -/
def flatMap (h : Stretches α) (f : α → List β) : Stretches β :=
  ⟨h.ended.map fun as => as.flatMap f, h.current.flatMap f⟩

@[simp] theorem current_extend (h : Stretches α) (as : List α) :
    (h.extend as).current = h.current ++ as := rfl

@[simp] theorem current_part (h : Stretches α) : h.part.current = [] := rfl

@[simp] theorem extend_nil (h : Stretches α) : h.extend [] = h := by
  simp [extend]

theorem extend_append (h : Stretches α) (as bs : List α) :
    h.extend (as ++ bs) = (h.extend as).extend bs := by
  simp [extend]

@[simp] theorem series_extend (h : Stretches α) (as : List α) :
    (h.extend as).series = h.series ++ as := by
  simp [series, all, extend]

@[simp] theorem series_part (h : Stretches α) : h.part.series = h.series := by
  simp [series, all, part]

theorem length_current_le (h : Stretches α) : h.current.length ≤ h.series.length := by
  simp [series, all]

@[simp] theorem surplus_part (h : Stretches α) (capacity : Nat) :
    h.part.surplus capacity = h.surplus capacity := by
  simp [surplus, all, part]

/-- Only the last stretch gains anything beyond the capacity. -/
theorem surplus_extend (h : Stretches α) (as : List α) (capacity : Nat) :
    (h.extend as).surplus capacity + (h.current.length - capacity) =
      h.surplus capacity + (h.current.length + as.length - capacity) := by
  simp only [surplus, all, extend, List.map_append, List.map_cons, List.map_nil, List.sum_append,
    List.sum_cons, List.sum_nil, List.length_append]
  omega

theorem flatMap_extend (h : Stretches α) (f : α → List β) (as : List α) :
    (h.extend as).flatMap f = (h.flatMap f).extend (as.flatMap f) := by
  simp [flatMap, extend]

theorem flatMap_part (h : Stretches α) (f : α → List β) :
    h.part.flatMap f = (h.flatMap f).part := by
  simp [flatMap, part, all]

theorem all_flatMap (h : Stretches α) (f : α → List β) :
    (h.flatMap f).all = h.all.map fun as => as.flatMap f := by
  simp [flatMap, all]

theorem series_flatMap (h : Stretches α) (f : α → List β) :
    (h.flatMap f).series = h.series.flatMap f := by
  rw [series, all_flatMap, series, ← List.flatMap_id, ← List.flatMap_id, List.flatMap_map,
    List.flatMap_assoc]
  rfl

end Stretches

namespace Journal

/-! ### Writing in batches -/

/-- Writing a batch is writing its parts one after the other. -/
theorem append_append (j : Journal) (xs ys : List LogLine) :
    j.append (xs ++ ys) =
      (((j.append xs).1.append ys).1, (j.append xs).2 + ((j.append xs).1.append ys).2) := by
  induction xs generalizing j with
  | nil => simp
  | cons line xs ih =>
      rw [List.cons_append, append_cons, ih, append_cons, Nat.add_assoc]

/-- What can be done to a journal. -/
inductive Action where
  | append (lines : List LogLine)
  | clear
deriving DecidableEq, Repr

/-- The journal after an action, and how many entries had to make room. -/
def perform (j : Journal) : Action → Journal × Nat
  | .append lines => j.append lines
  | .clear => (j.clear, 0)

/-- The journal after a run, and how many entries had to make room in it. -/
def run (j : Journal) : List Action → Journal × Nat
  | [] => (j, 0)
  | a :: as =>
    let (next, n) := j.perform a
    let (last, m) := next.run as
    (last, n + m)

/-- What has been written after an action. -/
def Action.writeTo (h : Stretches LogLine) : Action → Stretches LogLine
  | append lines => h.extend lines
  | clear => h.part

/-- What a run writes; clearing parts it. -/
def written (as : List Action) : Stretches LogLine := as.foldl Action.writeTo {}

/-! ### What a journal shows -/

/-- The journal shows the end of what was written: the last lines of the current stretch, as many
as it can hold, under numbers that end at the number of lines in all. -/
structure Shows (capacity : Nat) (h : Stretches LogLine) (j : Journal) : Prop where
  capacity_eq : j.capacity = capacity
  capacity_pos : 0 < capacity
  nextId_eq : j.nextId = h.series.length + 1
  lines_eq : j.entries.map Entry.line = h.current.rtake capacity
  ids_eq : j.entries.map Entry.id =
    List.range' (h.series.length + 1 - j.entries.length) j.entries.length

/-- A journal raises its capacity to one if need be, and shows nothing at first. -/
theorem shows_ofCapacity (capacity : Nat) : Shows (max capacity 1) {} (ofCapacity capacity) where
  capacity_eq := rfl
  capacity_pos := Nat.lt_of_lt_of_le Nat.one_pos (Nat.le_max_right capacity 1)
  nextId_eq := rfl
  lines_eq := by rw [List.rtake_nil]; rfl
  ids_eq := rfl

/-- One more element pushes out the first of the last `n`, if there are as many. -/
theorem rtake_concat {α : Type} {n : Nat} (hn : 0 < n) (as : List α) (a : α) :
    (as ++ [a]).rtake n = (as.rtake n).drop ((as.rtake n).length + 1 - n) ++ [a] := by
  simp only [List.rtake, List.length_drop, List.drop_drop, List.length_append,
    List.length_singleton]
  rw [List.drop_append_of_le_length (by omega)]
  congr 2
  omega

namespace Shows

variable {capacity : Nat} {h : Stretches LogLine} {j : Journal}

theorem length_entries (hj : Shows capacity h j) :
    j.entries.length = min capacity h.current.length := by
  have hlen := congrArg List.length hj.lines_eq
  simp only [List.length_map, List.rtake, List.length_drop] at hlen
  omega

theorem length_entries_le (hj : Shows capacity h j) : j.entries.length ≤ h.series.length := by
  have hlen := hj.length_entries
  have hle := h.length_current_le
  omega

theorem push (hj : Shows capacity h j) (line : LogLine) :
    Shows capacity (h.extend [line]) (j.push line).1 where
  capacity_eq := hj.capacity_eq
  capacity_pos := hj.capacity_pos
  nextId_eq := by simp [hj.nextId_eq]
  lines_eq := by
    have hlen := congrArg List.length hj.lines_eq
    rw [List.length_map] at hlen
    rw [entries_push, List.map_append, List.map_drop, hj.lines_eq, hj.capacity_eq, hlen,
      Stretches.current_extend, rtake_concat hj.capacity_pos]
    rfl
  ids_eq := by
    have hle := hj.length_entries_le
    have hcapacity : j.entries.length ≤ capacity := hj.length_entries ▸ Nat.min_le_left _ _
    have hpos := hj.capacity_pos
    -- the first of the numbers goes if the journal is full, and the next one joins at the end
    rw [entries_push, List.map_append, List.map_drop, hj.ids_eq, hj.capacity_eq]
    simp only [List.map_cons, List.map_nil, hj.nextId_eq, Stretches.series_extend,
      List.length_append, List.length_singleton, List.length_drop, List.drop_range']
    rw [List.range'_1_concat]
    congr 2
    · omega
    · omega

theorem append (hj : Shows capacity h j) (lines : List LogLine) :
    Shows capacity (h.extend lines) (j.append lines).1 := by
  induction lines generalizing h j with
  | nil => simpa using hj
  | cons line lines ih =>
      have hnext := ih (hj.push line)
      rwa [← Stretches.extend_append] at hnext

/-- **What is too much makes room**: of the entries there are and the lines that come, as many go
as there are beyond the capacity. -/
theorem append_snd (hj : Shows capacity h j) (lines : List LogLine) :
    (j.append lines).2 = j.entries.length + lines.length - capacity := by
  induction lines generalizing h j with
  | nil =>
      have hlen := hj.length_entries
      rw [append_nil, List.length_nil]
      omega
  | cons line lines ih =>
      have hlen := hj.length_entries
      have hpos := hj.capacity_pos
      rw [append_cons, ih (hj.push line), push_snd, entries_push, hj.capacity_eq]
      simp only [List.length_append, List.length_take, List.length_drop, List.length_cons,
        List.length_nil]
      omega

theorem clear (hj : Shows capacity h j) : Shows capacity h.part j.clear where
  capacity_eq := hj.capacity_eq
  capacity_pos := hj.capacity_pos
  nextId_eq := by rw [Stretches.series_part]; exact hj.nextId_eq
  lines_eq := by rw [Stretches.current_part, List.rtake_nil]; rfl
  ids_eq := rfl

/-- The entries that make room are what the stretches come to have beyond the capacity. -/
theorem surplus_extend (hj : Shows capacity h j) (lines : List LogLine) :
    (h.extend lines).surplus capacity = h.surplus capacity + (j.append lines).2 := by
  have hlen := hj.length_entries
  have hsurplus := h.surplus_extend lines capacity
  rw [hj.append_snd]
  omega

/-- A run writes on, and what makes room is what it writes beyond the capacity. -/
theorem run (hj : Shows capacity h j) (as : List Action) :
    Shows capacity (as.foldl Action.writeTo h) (j.run as).1 ∧
      (as.foldl Action.writeTo h).surplus capacity = h.surplus capacity + (j.run as).2 := by
  induction as generalizing h j with
  | nil => exact ⟨hj, rfl⟩
  | cons a as ih =>
      cases a with
      | append lines =>
          obtain ⟨hlast, hsurplus⟩ := ih (hj.append lines)
          refine ⟨hlast, ?_⟩
          rw [List.foldl_cons, Action.writeTo, hsurplus, hj.surplus_extend lines, Nat.add_assoc]
          rfl
      | clear =>
          obtain ⟨hlast, hsurplus⟩ := ih hj.clear
          refine ⟨hlast, ?_⟩
          rw [List.foldl_cons, Action.writeTo, hsurplus, Stretches.surplus_part]
          simp only [Journal.run, perform, Nat.zero_add]

end Shows

end Journal

/-! ### The journal of a session -/

namespace Session

/-- The outcomes that have been told after an answer; the notice of a reset parts them. -/
def Answer.tellTo (h : Stretches Outcome) : Answer → Stretches Outcome
  | outcome o => h.extend o.toList
  | resetNotice _ => h.part
  | dismissed _ => h
  | expired _ => h

/-- The outcomes of a run, parted at its resets. -/
def stretches (s : Session) (ops : List Operation) : Stretches Outcome :=
  (s.answers ops).foldl Answer.tellTo {}

/-- Parting loses no outcome. -/
theorem series_tellTo (answers : List Answer) (h : Stretches Outcome) :
    (answers.foldl Answer.tellTo h).series = h.series ++ answers.filterMap Answer.outcome? := by
  induction answers generalizing h with
  | nil => simp
  | cons a answers ih =>
      rw [List.foldl_cons, ih]
      cases a with
      | outcome o =>
          rw [Answer.tellTo, Stretches.series_extend]
          cases o with
          | none => rw [Option.toList_none, List.append_nil, List.filterMap_cons_none rfl]
          | some o =>
              have hsome : (Answer.outcome (some o)).outcome? = some o := rfl
              rw [Option.toList_some, List.filterMap_cons_some hsome, List.append_assoc]
              rfl
      | resetNotice id =>
          rw [Answer.tellTo, Stretches.series_part, List.filterMap_cons_none rfl]
      | dismissed removed => rw [Answer.tellTo, List.filterMap_cons_none rfl]
      | expired ids => rw [Answer.tellTo, List.filterMap_cons_none rfl]

/-- Every outcome has two lines. -/
theorem length_flatMap_logLines (os : List Outcome) :
    (os.flatMap Outcome.logLines).length = 2 * os.length := by
  induction os with
  | nil => rfl
  | cons o os ih =>
      rw [List.flatMap_cons, List.length_append, Outcome.length_logLines, ih, List.length_cons]
      omega

/-- Two lines for every outcome are too many for a capacity in these numbers. -/
theorem surplus_logLines (h : Stretches Outcome) (capacity : Nat) :
    (h.flatMap Outcome.logLines).surplus capacity =
      (h.all.map fun os => 2 * os.length - capacity).sum := by
  have hlen : ((fun as : List LogLine => as.length - capacity) ∘
      fun os : List Outcome => os.flatMap Outcome.logLines) =
        fun os => 2 * os.length - capacity := by
    funext os
    rw [Function.comp_apply, length_flatMap_logLines]
  rw [Stretches.surplus, Stretches.all_flatMap, List.map_map, hlen]

/-- The journal shows the end of what the outcomes `h` write, and the counters count them. -/
structure Logged (capacity : Nat) (h : Stretches Outcome) (s : Session) : Prop where
  shows : Journal.Shows capacity (h.flatMap Outcome.logLines) s.journal
  linesEvicted_eq : s.tally.linesEvicted = (h.flatMap Outcome.logLines).surplus capacity
  commands_eq : s.tally.commands = h.series.length
  resets_eq : s.tally.resets = h.ended.length

namespace Logged

variable {capacity : Nat} {h : Stretches Outcome} {s : Session}

theorem start {A : Settings} (hs : Session.start A = .ok s) : Logged A.logCapacity {} s := by
  obtain ⟨hcheck, rfl⟩ := start_eq_ok_iff.1 hs
  have hpos := (Settings.check_eq_ok_iff.1 hcheck).2.1
  have hmax : max A.logCapacity 1 = A.logCapacity := by omega
  have hshows := Journal.shows_ofCapacity A.logCapacity
  rw [hmax] at hshows
  exact ⟨hshows, by simp [fresh, Stretches.surplus, Stretches.all, Stretches.flatMap], rfl, rfl⟩

/-- An outcome writes its two lines. -/
theorem submit (hs : Logged capacity h s) (line : String) (now : Nat) :
    Logged capacity (h.extend (s.submit line now).2.toList) (s.submit line now).1 := by
  cases ho : (s.submit line now).2 with
  | none =>
      rw [submit_of_none ho, Option.toList_none, Stretches.extend_nil]
      exact hs
  | some o =>
      have hlines : (h.extend [o]).flatMap Outcome.logLines =
          (h.flatMap Outcome.logLines).extend o.logLines := by
        rw [Stretches.flatMap_extend, List.flatMap_singleton]
      rw [submit_of_some ho, Option.toList_some]
      constructor
      · rw [journal_absorb, hlines]
        exact hs.shows.append o.logLines
      · rw [linesEvicted_absorb, hlines, hs.shows.surplus_extend, ← hs.linesEvicted_eq]
      · rw [commands_absorb, Stretches.series_extend, List.length_append, ← hs.commands_eq]
        rfl
      · rw [resets_absorb]
        exact hs.resets_eq

/-- A reset starts a new stretch. -/
theorem reset (hs : Logged capacity h s) (now : Nat) : Logged capacity h.part (s.reset now).1 := by
  constructor
  · rw [journal_reset, Stretches.flatMap_part]
    exact hs.shows.clear
  · rw [linesEvicted_reset, Stretches.flatMap_part, Stretches.surplus_part]
    exact hs.linesEvicted_eq
  · rw [commands_reset, Stretches.series_part]
    exact hs.commands_eq
  · rw [resets_reset, hs.resets_eq]
    simp [Stretches.part, Stretches.all]

theorem perform (hs : Logged capacity h s) (op : Operation) :
    Logged capacity (Answer.tellTo h (s.perform op).2) (s.perform op).1 := by
  cases op with
  | submit line now =>
      rw [perform_submit]
      exact hs.submit line now
  | reset now =>
      rw [perform_reset]
      exact hs.reset now
  | dismiss id =>
      -- what is on show is no part of the journal
      rw [perform_dismiss]
      exact ⟨hs.shows, hs.linesEvicted_eq, hs.commands_eq, hs.resets_eq⟩
  | expire now =>
      rw [perform_expire]
      exact ⟨hs.shows, hs.linesEvicted_eq, hs.commands_eq, hs.resets_eq⟩

/-- **Every run is logged.** -/
theorem run (hs : Logged capacity h s) (ops : List Operation) :
    Logged capacity ((s.answers ops).foldl Answer.tellTo h) (s.run ops) := by
  induction ops generalizing h s with
  | nil => exact hs
  | cons op ops ih => exact ih (hs.perform op)

end Logged

/-- **The journal is the end of everything that was written.**  After any run, a journal holds as
many of the lines written since it was last cleared as its capacity allows, the last ones, unchanged
and in order; their numbers follow one another up to the number of lines ever written.  Lines that
come drive out as many entries as there are too many then, and they do so in whatever batches they
come; in all, as many as the stretches between clearings had lines beyond the capacity.

In a session the lines are the two of each outcome since the last reset, the number of the last one
is twice the number of commands, and the counter of lines that had to make room tells what the
stretches between resets had beyond the capacity. -/
theorem journal_is_the_end :
    (∀ (capacity : Nat) (as : List Journal.Action) (j : Journal) (gone : Nat),
      (Journal.ofCapacity capacity).run as = (j, gone) →
      j.entries.length = min (max capacity 1) (Journal.written as).current.length ∧
      j.entries.map Journal.Entry.line = (Journal.written as).current.rtake (max capacity 1) ∧
      j.entries.map Journal.Entry.id =
        List.range' ((Journal.written as).series.length + 1 - j.entries.length)
          j.entries.length ∧
      gone = (Journal.written as).surplus (max capacity 1) ∧
      (∀ lines, (j.append lines).2 = j.entries.length + lines.length - max capacity 1) ∧
      ∀ xs ys, j.append (xs ++ ys) =
        (((j.append xs).1.append ys).1, (j.append xs).2 + ((j.append xs).1.append ys).2)) ∧
    ∀ (A : Settings) (s : Session), start A = .ok s → ∀ (ops : List Operation) (t : Session),
      s.run ops = t →
      (s.stretches ops).series = s.outcomes ops ∧
      (s.stretches ops).ended.length = t.tally.resets ∧
      t.journal.entries.map Journal.Entry.line =
        ((s.stretches ops).current.flatMap Outcome.logLines).rtake A.logCapacity ∧
      t.journal.entries.map Journal.Entry.id =
        List.range' (2 * t.tally.commands + 1 - t.journal.entries.length)
          t.journal.entries.length ∧
      t.journal.nextId = 2 * t.tally.commands + 1 ∧
      (∀ e, t.journal.last? = some e → e.id = 2 * t.tally.commands) ∧
      t.tally.linesEvicted =
        ((s.stretches ops).all.map fun os => 2 * os.length - A.logCapacity).sum := by
  constructor
  · rintro capacity as j gone hrun
    obtain ⟨hshows, hgone⟩ := (Journal.shows_ofCapacity capacity).run as
    rw [hrun] at hshows hgone
    refine ⟨hshows.length_entries, hshows.lines_eq, hshows.ids_eq, ?_, hshows.append_snd,
      j.append_append⟩
    rw [Journal.written, hgone]
    simp [Stretches.surplus, Stretches.all]
  · rintro A s hs ops t rfl
    have hlogged := (Logged.start hs).run ops
    have hids := hlogged.shows.ids_eq
    have hle := hlogged.shows.length_entries_le
    have hnext := hlogged.shows.nextId_eq
    rw [Stretches.series_flatMap, length_flatMap_logLines, ← hlogged.commands_eq] at hids hle hnext
    refine ⟨series_tellTo _ _, hlogged.resets_eq.symm, hlogged.shows.lines_eq, hids, hnext, ?_, ?_⟩
    · intro e he
      have hlast : ((s.run ops).journal.entries.map Journal.Entry.id).getLast? = some e.id := by
        rw [List.getLast?_map, ← Journal.last?, he, Option.map_some]
      -- the numbers follow one another up to that of the last line written
      rw [hids, List.getLast?_range'] at hlast
      split at hlast
      · cases hlast
      · have hid := Option.some.inj hlast
        omega
    · rw [hlogged.linesEvicted_eq, surplus_logLines]
      rfl

/-- Settings under which the journal holds the lines of one outcome and a half. -/
def cramped : Settings := { logCapacity := 3 }

/-- A line, and after a clearing two at once. -/
def batches : List Journal.Action :=
  [.append [⟨.command, "a"⟩], .clear, .append [⟨.output, "b"⟩, ⟨.error, "c"⟩]]

/-- Three outcomes, a reset, and two more. -/
def overflowing : List Operation :=
  [.submit "MOVE" 1, .submit "LEFT" 2, .submit " " 2, .submit "REPORT" 3, .reset 4, .dismiss 1,
   .submit "place_wall 1,1" 5, .submit "move" 0]

/-- The hypotheses of `TorusRobot.Session.journal_is_the_end` are met by a journal without room that
is given a batch, and by a session whose journal overflows before a reset and behind it. -/
theorem journal_is_the_end_overflowing :
    (∃ j, (Journal.ofCapacity 0).run batches = (j, 1) ∧
      j.entries.map Journal.Entry.line = [⟨.error, "c"⟩] ∧
      j.entries.map Journal.Entry.id = [3]) ∧
    ∃ s, start cramped = .ok s ∧
      (s.run overflowing).journal.entries.map Journal.Entry.id = [8, 9, 10] ∧
      (s.run overflowing).tally.linesEvicted = (2 * 3 - 3) + (2 * 2 - 3) := by
  obtain ⟨hjournals, hsessions⟩ := journal_is_the_end
  constructor
  · obtain ⟨hlen, hlines, hids, -⟩ :=
      hjournals 0 batches _ _ rfl
    refine ⟨_, rfl, hlines, ?_⟩
    rw [hids, hlen]
    rfl
  · have hs : start cramped = .ok (fresh cramped) := start_eq_ok_iff.2 ⟨rfl, rfl⟩
    obtain ⟨-, -, -, hids, -, -, hgone⟩ := hsessions cramped (fresh cramped) hs overflowing _ rfl
    have hcommands : ((fresh cramped).run overflowing).tally.commands = 5 := by decide +kernel
    have hlen : ((fresh cramped).run overflowing).journal.entries.length = 3 := by decide +kernel
    have hstretches : (((fresh cramped).stretches overflowing).all.map
        fun os => 2 * os.length - cramped.logCapacity) = [2 * 3 - 3, 2 * 2 - 3] := by
      decide +kernel
    refine ⟨fresh cramped, hs, ?_, ?_⟩
    · rw [hids, hcommands, hlen]
      rfl
    · rw [hgone, hstretches]
      rfl

end Session

end TorusRobot
