/-
**The tally of a session.**

Counters of what has happened.  They only grow; a reset is counted and clears nothing.

Main definitions:

* `TorusRobot.Tally` — the counters;
* `TorusRobot.Tally.countStatus` — one more command of a status;
* `TorusRobot.Tally.ofStatus` — how many commands had a status.

Main results:

* `TorusRobot.Tally.ofStatus_countStatus` — only the counter of that status grows.
-/
import TorusRobot.Outcome.Status

set_option relaxedAutoImplicit false
set_option autoImplicit false

namespace TorusRobot

/-- What has happened in a session. -/
structure Tally where
  commands : Nat := 0
  ok : Nat := 0
  blocked : Nat := 0
  invalid : Nat := 0
  notPlaced : Nat := 0
  /-- Notices put in the tray. -/
  emitted : Nat := 0
  /-- Notices that had to make room. -/
  evicted : Nat := 0
  /-- Notices whose deadline came. -/
  expired : Nat := 0
  dismissed : Nat := 0
  /-- Lines of the journal that had to make room. -/
  linesEvicted : Nat := 0
  resets : Nat := 0
deriving DecidableEq, Repr

namespace Tally

/-- One more command of the given status. -/
def countStatus (t : Tally) (s : Status) : Tally :=
  let t := { t with commands := t.commands + 1 }
  match s with
  | .ok => { t with ok := t.ok + 1 }
  | .blocked => { t with blocked := t.blocked + 1 }
  | .invalid => { t with invalid := t.invalid + 1 }
  | .notPlaced => { t with notPlaced := t.notPlaced + 1 }

/-- How many commands had the given status. -/
def ofStatus (t : Tally) : Status → Nat
  | .ok => t.ok
  | .blocked => t.blocked
  | .invalid => t.invalid
  | .notPlaced => t.notPlaced

/-- Only the counter of the status counted grows. -/
theorem ofStatus_countStatus (t : Tally) (s u : Status) :
    (t.countStatus s).ofStatus u = t.ofStatus u + if s = u then 1 else 0 := by
  cases s <;> cases u <;> rfl

@[simp] theorem commands_countStatus (t : Tally) (s : Status) :
    (t.countStatus s).commands = t.commands + 1 := by
  cases s <;> rfl

/-- One more notice in the tray, for which `gone` others had to make room. -/
def countNotice (t : Tally) (gone : Nat) : Tally :=
  { t with emitted := t.emitted + 1, evicted := t.evicted + gone }

end Tally

end TorusRobot
