/-
**The world.**

The world is a grid with at most one robot and with walls that stay where they are put.  A
transition gives a new world or says why there is none; the old one is never changed.

Main definitions:

* `TorusRobot.World` — the grid, the robot, the walls, the last report and the last stamp;
* `TorusRobot.World.ofSide` — an empty world;
* `TorusRobot.World.placeRobot`, `TorusRobot.World.placeWall`, `TorusRobot.World.advance`,
  `TorusRobot.World.turn`, `TorusRobot.World.report` — the transitions;
* `TorusRobot.World.PlacementFault`, `TorusRobot.World.MotionFault` — why a transition fails;
* `TorusRobot.World.agrees` — equality that ignores the order of the walls.

Main results:

* `TorusRobot.World.placeRobot_eq_ok_iff`, `TorusRobot.World.placeWall_eq_ok_iff` — when a
  placement takes effect;
* `TorusRobot.World.advance_eq_ok_iff`, `TorusRobot.World.turn_eq_ok_iff`,
  `TorusRobot.World.report_eq_ok_iff` — when an action of the robot does.
-/
import TorusRobot.Grid.Robot
import TorusRobot.Outcome.Status

set_option relaxedAutoImplicit false
set_option autoImplicit false

namespace TorusRobot

/-! ### Worlds -/

/-- What the last command left behind for display. -/
structure World.Stamp where
  verb : String
  status : Status
  message : String
deriving DecidableEq, Repr

/-- A grid, its robot and its walls. -/
structure World where
  side : UInt32
  robot : Option Robot := none
  /-- The walls in the order in which they were placed. -/
  walls : List Position := []
  lastReport : Option String := none
  stamp : Option World.Stamp := none
deriving DecidableEq, Repr

namespace World

/-- The empty world on a grid of the usual side. -/
def initial : World := { side := Grid.defaultSide }

/-- The empty world on a grid of the given side, or why there is no such grid. -/
def ofSide (side : UInt32) : Except Grid.SideFault World :=
  (Grid.checkSide side).map fun n => { side := n }

/-- Whether a wall stands at `p`. -/
def hasWall (w : World) (p : Position) : Bool := w.walls.contains p

@[simp] theorem hasWall_eq_true {w : World} {p : Position} : w.hasWall p = true ↔ p ∈ w.walls := by
  simp [hasWall]

/-- Whether two worlds are equal when the order of the walls is left out of account. -/
def agrees (v w : World) : Bool :=
  v.side = w.side && v.robot = w.robot && v.walls.length = w.walls.length &&
    v.walls.all w.hasWall && v.lastReport = w.lastReport && v.stamp = w.stamp

/-! ### Faults -/

/-- Why something cannot be placed. -/
inductive PlacementFault where
  | outOfBounds (row col : Int64) (side : UInt32)
  | robotOnWall (p : Position)
  | wallOnRobot (p : Position)
  | wallExists (p : Position)
deriving DecidableEq, Repr

/-- The wording of a refused placement. -/
def PlacementFault.message : PlacementFault → String
  | outOfBounds row col side =>
    "cell " ++ Text.Decimal.signedText row.toInt ++ "," ++ Text.Decimal.signedText col.toInt ++
      " out of bounds: [1, " ++ Text.Decimal.text side.toNat ++ "] x [1, " ++
      Text.Decimal.text side.toNat ++ "]"
  | robotOnWall p => "robot on wall at " ++ p.text
  | wallOnRobot p => "wall on robot at " ++ p.text
  | wallExists p => "wall already exists at " ++ p.text

/-- Why the robot cannot act. -/
inductive MotionFault where
  | notPlaced
  | blocked (p : Position)
deriving DecidableEq, Repr

/-- The wording of a refused motion. -/
def MotionFault.message : MotionFault → String
  | notPlaced => "robot not placed"
  | blocked p => "move blocked by wall at " ++ p.text

/-! ### Placements -/

/-- The cell with the given coordinates. -/
def locate (w : World) (row col : Int64) : Except PlacementFault Position :=
  match Position.checked row col w.side with
  | some p => .ok p
  | none => .error (.outOfBounds row col w.side)

/-- The fault of a position that is off the grid. -/
def offGrid (w : World) (p : Position) : PlacementFault :=
  .outOfBounds (Int64.ofInt p.row.toNat) (Int64.ofInt p.col.toNat) w.side

/-- The robot is put on a cell of the grid that holds no wall; the one there was is gone. -/
def placeRobot (w : World) (r : Robot) : Except PlacementFault World :=
  if r.position.within w.side then
    if w.hasWall r.position then .error (.robotOnWall r.position)
    else .ok { w with robot := some r }
  else .error (w.offGrid r.position)

/-- A wall is put on a cell of the grid that holds neither the robot nor a wall. -/
def placeWall (w : World) (p : Position) : Except PlacementFault World :=
  if p.within w.side then
    if w.robot.any fun r => r.position = p then .error (.wallOnRobot p)
    else if w.hasWall p then .error (.wallExists p)
    else .ok { w with walls := w.walls ++ [p] }
  else .error (w.offGrid p)

/-- The robot is placed exactly on the cells of the grid without a wall, and nothing else
changes. -/
theorem placeRobot_eq_ok_iff {w v : World} {r : Robot} :
    w.placeRobot r = .ok v ↔
      r.position.within w.side = true ∧ r.position ∉ w.walls ∧ v = { w with robot := some r } := by
  unfold placeRobot
  split
  · rename_i h
    split
    · rename_i hw
      rw [hasWall_eq_true] at hw
      simp [hw]
    · rename_i hw
      rw [hasWall_eq_true] at hw
      simp [h, hw, eq_comm]
  · rename_i h
    simp [h]

/-- A wall is placed exactly on the free cells of the grid, behind the walls there are. -/
theorem placeWall_eq_ok_iff {w v : World} {p : Position} :
    w.placeWall p = .ok v ↔
      p.within w.side = true ∧ (∀ r, w.robot = some r → r.position ≠ p) ∧ p ∉ w.walls ∧
        v = { w with walls := w.walls ++ [p] } := by
  unfold placeWall
  split
  · rename_i h
    split
    · rename_i hr
      simp only [Option.any_eq_true, decide_eq_true_eq] at hr
      obtain ⟨r, hr, rfl⟩ := hr
      simp only [reduceCtorEq, false_iff]
      exact fun hv => hv.2.1 r hr rfl
    · rename_i hr
      simp only [Option.any_eq_true, decide_eq_true_eq, not_exists, not_and] at hr
      split
      · rename_i hw
        rw [hasWall_eq_true] at hw
        simp [hw]
      · rename_i hw
        rw [hasWall_eq_true] at hw
        simp only [Except.ok.injEq]
        constructor
        · rintro rfl
          exact ⟨h, fun r e => hr r e, hw, rfl⟩
        · exact fun hv => hv.2.2.2.symm
  · rename_i h
    simp [h]

/-! ### Motions -/

/-- The robot goes one cell ahead, unless a wall stands there. -/
def advance (w : World) : Except MotionFault (World × Robot) :=
  match w.robot with
  | none => .error .notPlaced
  | some r =>
    let moved := r.ahead w.side
    if w.hasWall moved.position then .error (.blocked moved.position)
    else .ok ({ w with robot := some moved }, moved)

/-- The robot turns on the spot. -/
def turn (w : World) (t : Turn) : Except MotionFault (World × Robot) :=
  match w.robot with
  | none => .error .notPlaced
  | some r => .ok ({ w with robot := some (r.turned t) }, r.turned t)

/-- The robot reports where it is. -/
def report (w : World) : Except MotionFault (World × String) :=
  match w.robot with
  | none => .error .notPlaced
  | some r => .ok ({ w with lastReport := some r.text }, r.text)

/-- The robot moves exactly onto a cell ahead without a wall, and nothing else changes. -/
theorem advance_eq_ok_iff {w v : World} {moved : Robot} :
    w.advance = .ok (v, moved) ↔
      ∃ r, w.robot = some r ∧ moved = r.ahead w.side ∧ moved.position ∉ w.walls ∧
        v = { w with robot := some moved } := by
  unfold advance
  cases hr : w.robot with
  | none => simp
  | some r =>
      simp only [Option.some.injEq, exists_eq_left']
      split
      · rename_i hw
        rw [hasWall_eq_true] at hw
        simp only [reduceCtorEq, false_iff]
        rintro ⟨rfl, hn, _⟩
        exact hn hw
      · rename_i hw
        rw [hasWall_eq_true] at hw
        simp only [Except.ok.injEq, Prod.mk.injEq]
        constructor
        · rintro ⟨rfl, rfl⟩
          exact ⟨rfl, hw, rfl⟩
        · rintro ⟨rfl, _, rfl⟩
          exact ⟨rfl, rfl⟩

/-- The robot turns exactly if there is one, and nothing else changes. -/
theorem turn_eq_ok_iff {w v : World} {t : Turn} {turned : Robot} :
    w.turn t = .ok (v, turned) ↔
      ∃ r, w.robot = some r ∧ turned = r.turned t ∧ v = { w with robot := some turned } := by
  unfold turn
  cases hr : w.robot with
  | none => simp
  | some r =>
      simp only [Option.some.injEq, exists_eq_left', Except.ok.injEq, Prod.mk.injEq]
      constructor
      · rintro ⟨rfl, rfl⟩
        exact ⟨rfl, rfl⟩
      · rintro ⟨rfl, rfl⟩
        exact ⟨rfl, rfl⟩

/-- The robot reports exactly if there is one, and only the last report changes. -/
theorem report_eq_ok_iff {w v : World} {text : String} :
    w.report = .ok (v, text) ↔
      ∃ r, w.robot = some r ∧ text = r.text ∧ v = { w with lastReport := some text } := by
  unfold report
  cases hr : w.robot with
  | none => simp
  | some r =>
      simp only [Option.some.injEq, exists_eq_left', Except.ok.injEq, Prod.mk.injEq]
      constructor
      · rintro ⟨rfl, rfl⟩
        exact ⟨rfl, rfl⟩
      · rintro ⟨rfl, rfl⟩
        exact ⟨rfl, rfl⟩

/-! ### Bookkeeping -/

/-- The empty world on the same grid. -/
def cleared (w : World) : World := { side := w.side }

/-- The world with the given stamp of its last command. -/
def stamped (w : World) (verb : String) (status : Status) (message : String) : World :=
  { w with stamp := some ⟨verb, status, message⟩ }

end World

end TorusRobot
