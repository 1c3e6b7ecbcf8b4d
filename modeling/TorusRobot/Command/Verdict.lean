/-
**Verdicts.**

What carrying out a command has come to, before it is put into words.  The words are fixed here:
the status, the message and the notice of a verdict are functions of the verdict alone.

Main definitions:

* `TorusRobot.Verdict` — what a command has come to;
* `TorusRobot.Verdict.status`, `TorusRobot.Verdict.message`, `TorusRobot.Verdict.notice` — how it
  is told;
* `TorusRobot.Verdict.outcome` — the outcome of a command that came to a verdict.
-/
import TorusRobot.Command.Verb
import TorusRobot.Grid.Robot
import TorusRobot.Outcome.Basic

set_option relaxedAutoImplicit false
set_option autoImplicit false

namespace TorusRobot

/-- What a command has come to. -/
inductive Verdict where
  | robotPlaced (r : Robot)
  | wallPlaced (p : Position)
  | moved (p : Position)
  | turned (f : Facing)
  | reported (report : String)
  /-- The arguments of a placement name no place on the grid. -/
  | badPlacement (v : Verb)
  | robotOnWall (p : Position)
  | wallOnRobot (p : Position)
  | wallExists (p : Position)
  | blocked (p : Position)
  | notPlaced
  | unknown (verb : String)
deriving DecidableEq, Repr

namespace Verdict

/-! ### Wording -/

/-- How the command went. -/
def status : Verdict → Status
  | robotPlaced _ | wallPlaced _ | moved _ | turned _ | reported _ => .ok
  | badPlacement _ | robotOnWall _ | wallOnRobot _ | wallExists _ | unknown _ => .invalid
  | blocked _ => .blocked
  | notPlaced => .notPlaced

/-- The result in words. -/
def message : Verdict → String
  | robotPlaced r => "OK: PLACED " ++ r.text
  | wallPlaced p => "OK: WALL_PLACED " ++ p.text
  | moved p => "OK: MOVED " ++ p.text
  | turned f => "OK: FACING " ++ f.name
  | reported report => "REPORT: " ++ report
  | badPlacement v => "ERROR: INVALID " ++ v.name
  | robotOnWall p => "ERROR: ROBOT_ON_WALL " ++ p.text
  | wallOnRobot p => "ERROR: WALL_ON_ROBOT " ++ p.text
  | wallExists p => "ERROR: WALL_EXISTS " ++ p.text
  | blocked p => "ERROR: BLOCKED " ++ p.text
  | notPlaced => "ERROR: ROBOT_NOT_PLACED"
  | unknown verb => "ERROR: UNKNOWN_CMD " ++ verb

/-! ### Notices -/

/-- For how long a report is shown, in milliseconds. -/
def reportLifetime : Nat := 3000

/-- For how long the lack of a robot is shown, in milliseconds. -/
def notPlacedLifetime : Nat := 3200

/-- For how long a blocked move is shown, in milliseconds. -/
def blockedLifetime : Nat := 3400

/-- For how long an invalid command is shown, in milliseconds. -/
def invalidLifetime : Nat := 3600

/-- The notice to show: none for a move or a turn, and the same heading for all invalid
commands. -/
def notice (v : Verdict) : Option Notice :=
  match v with
  | robotPlaced r => some { severity := .success, title := "ROBOT_PLACED", message := r.text }
  | wallPlaced p => some { severity := .success, title := "WALL_PLACED", message := p.text }
  | moved _ | turned _ => none
  | reported report => some ⟨.info, "REPORT", report, some reportLifetime⟩
  | blocked _ => some ⟨.error, "MOVE_BLOCKED", v.message, some blockedLifetime⟩
  | notPlaced =>
    some ⟨.warning, "ROBOT_NOT_PLACED", "Place the robot first (PLACE_ROBOT).",
      some notPlacedLifetime⟩
  | badPlacement _ | robotOnWall _ | wallOnRobot _ | wallExists _ | unknown _ =>
    some ⟨.error, "INVALID_COMMAND", v.message, some invalidLifetime⟩

/-- The outcome of a command with the given echo. -/
def outcome (v : Verdict) (echo : String) : Outcome := ⟨echo, v.status, v.message, v.notice⟩

end Verdict

end TorusRobot
