/-
**Verbs.**

Main definitions:

* `TorusRobot.Verb` — what a command can ask for;
* `TorusRobot.Verb.ofName?` — the verb with a given name.

Main results:

* `TorusRobot.Verb.ofName?_eq_some_iff` — only the six names are verbs.
-/
import TorusRobot.Grid.Facing

set_option relaxedAutoImplicit false
set_option autoImplicit false

namespace TorusRobot

/-- What a command can ask for. -/
inductive Verb where
  | placeRobot
  | placeWall
  | move
  | left
  | right
  | report
deriving DecidableEq, Repr

namespace Verb

/-- The verbs in their usual order. -/
def all : List Verb := [placeRobot, placeWall, move, left, right, report]

/-- The name of a verb. -/
def name : Verb → String
  | placeRobot => "PLACE_ROBOT"
  | placeWall => "PLACE_WALL"
  | move => "MOVE"
  | left => "LEFT"
  | right => "RIGHT"
  | report => "REPORT"

/-- The verb with a given name; upper and lower case differ. -/
def ofName? (name : String) : Option Verb := all.find? fun v => v.name = name

/-- Only the six names are verbs. -/
theorem ofName?_eq_some_iff {s : String} {v : Verb} : ofName? s = some v ↔ s = v.name := by
  constructor
  · intro h
    have h := List.find?_some h
    rw [decide_eq_true_eq] at h
    exact h.symm
  · rintro rfl
    cases v <;> rfl

/-- The verb that turns the robot. -/
def ofTurn : Turn → Verb
  | .left => left
  | .right => right

end Verb

end TorusRobot
