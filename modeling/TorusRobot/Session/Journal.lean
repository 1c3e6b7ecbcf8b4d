/-
**The journal.**

The journal is the log of a session: a window of fixed capacity over the lines most recently
appended.  Entries are numbered from one, and the numbers go on when the journal is cleared.

Main definitions:

* `TorusRobot.Journal` — the entries kept, the capacity and the next number;
* `TorusRobot.Journal.entries` — the entries kept, oldest first;
* `TorusRobot.Journal.push`, `TorusRobot.Journal.append` — adding a line, and several;
* `TorusRobot.Journal.clear` — dropping every entry.

Main results:

* `TorusRobot.Journal.entries_push`, `TorusRobot.Journal.push_snd` — a line takes the place of the
  oldest entries that are too many.
-/
import TorusRobot.Outcome.Basic
import TorusRobot.Session.Queue

set_option relaxedAutoImplicit false
set_option autoImplicit false

namespace TorusRobot

/-- A line of the journal with its number. -/
structure Journal.Entry where
  id : Nat
  line : LogLine
deriving DecidableEq, Repr

/-- A window over the lines most recently appended. -/
structure Journal where
  capacity : Nat
  /-- The entries; the oldest is in front. -/
  window : Queue Journal.Entry := .empty
  nextId : Nat := 1
deriving DecidableEq, Repr

namespace Journal

/-- The empty journal of a capacity, which is raised to one if need be. -/
def ofCapacity (capacity : Nat) : Journal := { capacity := max capacity 1 }

/-- The entries, oldest first. -/
def entries (j : Journal) : List Entry := j.window.toList

/-- A line is added at the end; from a full journal the oldest entry goes.  The number counts the
entries that went. -/
def push (j : Journal) (line : LogLine) : Journal × Nat :=
  let (window, gone) := j.window.pushWithin j.capacity ⟨j.nextId, line⟩
  ({ j with window := window, nextId := j.nextId + 1 }, gone.length)

/-- Lines are added in order.  The number counts the entries that went. -/
def append (j : Journal) : List LogLine → Journal × Nat
  | [] => (j, 0)
  | line :: lines =>
    let (next, n) := j.push line
    let (last, m) := next.append lines
    (last, n + m)

@[simp] theorem append_nil (j : Journal) : j.append [] = (j, 0) := rfl

theorem append_cons (j : Journal) (line : LogLine) (lines : List LogLine) :
    j.append (line :: lines) =
      (((j.push line).1.append lines).1, (j.push line).2 + ((j.push line).1.append lines).2) := rfl

/-- Every entry goes; the numbers go on. -/
def clear (j : Journal) : Journal := { j with window := .empty }

/-- The newest entry. -/
def last? (j : Journal) : Option Entry := j.entries.getLast?

/-! ### Numbers and entries -/

@[simp] theorem nextId_push (j : Journal) (line : LogLine) :
    (j.push line).1.nextId = j.nextId + 1 := rfl

@[simp] theorem capacity_push (j : Journal) (line : LogLine) :
    (j.push line).1.capacity = j.capacity := rfl

/-- A line is added at the end, and the oldest entries go that are too many for the capacity. -/
@[simp] theorem entries_push (j : Journal) (line : LogLine) :
    (j.push line).1.entries =
      j.entries.drop (j.entries.length + 1 - j.capacity) ++ [⟨j.nextId, line⟩] :=
  Queue.toList_pushWithin j.capacity j.window ⟨j.nextId, line⟩

/-- The entries that went are counted. -/
@[simp] theorem push_snd (j : Journal) (line : LogLine) :
    (j.push line).2 = (j.entries.take (j.entries.length + 1 - j.capacity)).length :=
  congrArg List.length (Queue.pushWithin_snd j.capacity j.window ⟨j.nextId, line⟩)

@[simp] theorem entries_clear (j : Journal) : j.clear.entries = [] := rfl

end Journal

end TorusRobot
