/-
**Layouts.**

A layout says how large the grid is, where the walls stand and where the robot is.  A world is built
from it directly, without commands: first the walls in order, then the robot.

Main definitions:

* `TorusRobot.Layout` — what a world is built from;
* `TorusRobot.Layout.build` — the world, or what is wrong with the layout;
* `TorusRobot.Layout.Fault` — what can be wrong.
-/
import TorusRobot.World.Basic

set_option relaxedAutoImplicit false
set_option autoImplicit false

namespace TorusRobot

/-- What a world is built from. -/
structure Layout where
  side : UInt32 := Grid.defaultSide
  walls : List Position := []
  robot : Option Robot := none
deriving DecidableEq, Repr

namespace Layout

/-- What can be wrong with a layout. -/
inductive Fault where
  | grid (side : UInt32) (fault : Grid.SideFault)
  | wall (p : Position) (fault : World.PlacementFault)
  | robot (p : Position) (fault : World.PlacementFault)
deriving DecidableEq, Repr

/-- The wording of a fault. -/
def Fault.message : Fault → String
  | grid side fault =>
    "fixture grid size " ++ Text.Decimal.text side.toNat ++ ": " ++ fault.message
  | wall p fault => "fixture wall " ++ p.text ++ ": " ++ fault.message
  | robot p fault => "fixture robot " ++ p.text ++ ": " ++ fault.message

/-- The walls are placed one after another. -/
def placeWalls (w : World) : List Position → Except Fault World
  | [] => .ok w
  | p :: ps =>
    match w.placeWall p with
    | .ok next => placeWalls next ps
    | .error fault => .error (.wall p fault)

/-- The robot is placed if there is to be one. -/
def placeRobot (w : World) : Option Robot → Except Fault World
  | none => .ok w
  | some r =>
    match w.placeRobot r with
    | .ok next => .ok next
    | .error fault => .error (.robot r.position fault)

/-- The world of a layout, or the first thing that is wrong with it. -/
def build (l : Layout) : Except Fault World :=
  match World.ofSide l.side with
  | .error fault => .error (.grid l.side fault)
  | .ok w =>
    match placeWalls w l.walls with
    | .error fault => .error fault
    | .ok w => placeRobot w l.robot

end Layout

end TorusRobot
