/-
**The robot.**

The robot stands on a cell and faces one of the four directions.

Main definitions:

* `TorusRobot.Robot` — where the robot is and where it looks;
* `TorusRobot.Robot.text` — the report of a robot, `row,col,FACING`;
* `TorusRobot.Robot.ahead` — the robot one cell further on;
* `TorusRobot.Robot.turned` — the robot after a turn.
-/
import TorusRobot.Grid.Position

set_option relaxedAutoImplicit false
set_option autoImplicit false

namespace TorusRobot

/-- Where the robot is and where it looks. -/
structure Robot where
  position : Position
  facing : Facing
deriving DecidableEq, Repr

namespace Robot

/-- The report of a robot: row, column and facing. -/
def text (r : Robot) : String := r.position.text ++ "," ++ r.facing.name

/-- The robot one cell further on, on a grid of the given side. -/
def ahead (r : Robot) (side : UInt32) : Robot :=
  { r with position := r.position.step r.facing side }

@[simp] theorem facing_ahead (r : Robot) (side : UInt32) : (r.ahead side).facing = r.facing := rfl

/-- The robot after a turn. -/
def turned (r : Robot) (t : Turn) : Robot := { r with facing := t.apply r.facing }

@[simp] theorem position_turned (r : Robot) (t : Turn) : (r.turned t).position = r.position := rfl

end Robot

end TorusRobot
