/-
**Scripts.**

A script is a list of lines with the status of the last one and the robot it must end with on a grid
of the usual side.

Main definitions:

* `TorusRobot.Script` — lines and how they must end;
* `TorusRobot.Script.Holds` — whether they do;
* `TorusRobot.Script.all` — the scripts at hand.

Main results:

* `TorusRobot.Script.holds_iff` — a script is judged by the outcome of its last command.
-/
import TorusRobot.World.Judgment

set_option relaxedAutoImplicit false
set_option autoImplicit false

namespace TorusRobot

/-- Lines and how they must end. -/
structure Script where
  name : String
  lines : List String
  /-- How the last command must go. -/
  finalStatus : Status
  robot : Option Robot
deriving DecidableEq, Repr

namespace Script

/-- The world after the lines, on an empty grid of the usual side. -/
def world (s : Script) : World := World.initial.applyAll (s.lines.map Command.read)

/-- Whether the script ends as it says. -/
def Holds (s : Script) : Prop :=
  s.world.robot = s.robot ∧ s.world.stamp.map World.Stamp.status = some s.finalStatus

/-- The robot moves, turns and reports. -/
def placeMoveTurnReport : Script where
  name := "place_move_turn_report"
  lines := ["PLACE_ROBOT 1,1,NORTH", "MOVE", "LEFT", "REPORT"]
  finalStatus := .ok
  robot := some ⟨⟨2, 1⟩, .west⟩

/-- A wall ahead stops the robot. -/
def blockedByWall : Script where
  name := "blocked_by_wall"
  lines := ["PLACE_WALL 2,1", "PLACE_ROBOT 1,1,NORTH", "MOVE"]
  finalStatus := .blocked
  robot := some ⟨⟨1, 1⟩, .north⟩

/-- A move before there is a robot. -/
def moveUnplaced : Script where
  name := "move_unplaced"
  lines := ["MOVE"]
  finalStatus := .notPlaced
  robot := none

/-- A placement off the grid. -/
def placeOutOfBounds : Script where
  name := "place_out_of_bounds"
  lines := ["PLACE_ROBOT 9,1,NORTH"]
  finalStatus := .invalid
  robot := none

/-- A verb that does not exist. -/
def unknownVerb : Script where
  name := "unknown_verb"
  lines := ["FOO"]
  finalStatus := .invalid
  robot := none

/-- A lap to the north ends where it started. -/
def northLap : Script where
  name := "north_lap"
  lines := ["PLACE_ROBOT 3,2,NORTH", "MOVE", "MOVE", "MOVE", "MOVE", "MOVE"]
  finalStatus := .ok
  robot := some ⟨⟨3, 2⟩, .north⟩

/-- A wall that is ahead only around the edge. -/
def wrappedWall : Script where
  name := "wrapped_wall"
  lines := ["PLACE_WALL 4,5", "PLACE_ROBOT 4,1,WEST", "MOVE"]
  finalStatus := .blocked
  robot := some ⟨⟨4, 1⟩, .west⟩

/-- The scripts at hand. -/
def all : List Script :=
  [placeMoveTurnReport, blockedByWall, moveUnplaced, placeOutOfBounds, unknownVerb, northLap,
   wrappedWall]

instance (s : Script) : Decidable s.Holds :=
  inferInstanceAs (Decidable (_ ∧ _))

/-- A script ends as it says if the robot does and the last outcome has the status it says. -/
theorem holds_iff (s : Script) :
    s.Holds ↔ s.world.robot = s.robot ∧
      ((World.initial.outcomes (s.lines.map Command.read)).filterMap id).getLast?.map
        Outcome.status = some s.finalStatus := by
  have hstamp : World.initial.stamp.map World.Stamp.status = none := rfl
  rw [Holds, world, World.status_applyAll, hstamp, Option.or_none]

example : ∀ s ∈ all, s.Holds := by decide +kernel

end Script

end TorusRobot
