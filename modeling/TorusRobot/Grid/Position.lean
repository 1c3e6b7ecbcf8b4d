/-
**Positions on the grid.**

A position names a cell by its row and its column, both counted from one.  One step leads to the
neighbor in the direction of a facing, around the edge if need be.

Main definitions:

* `TorusRobot.Position` — a row and a column;
* `TorusRobot.Position.within`, `TorusRobot.Position.OnGrid` — whether the cell is on a grid;
* `TorusRobot.Position.checked` — the cell with given coordinates, if it is on the grid;
* `TorusRobot.Position.tryStep`, `TorusRobot.Position.tryWalk` — one step and a series of steps, by
  operations that may fail;
* `TorusRobot.Position.step`, `TorusRobot.Position.walk` — the same, since none of them does.

Main results:

* `TorusRobot.Position.exists_tryStep`, `TorusRobot.Position.tryWalk_eq` — nothing fails on the way;
* `TorusRobot.Position.onGrid_step` — a step leads onto the grid.
-/
import TorusRobot.Grid.Axis
import TorusRobot.Grid.Facing

set_option relaxedAutoImplicit false
set_option autoImplicit false

namespace TorusRobot

/-- A cell of the grid, or a pair of coordinates that is off it. -/
structure Position where
  /-- The row, which grows toward the north. -/
  row : UInt32
  /-- The column, which grows toward the east. -/
  col : UInt32
deriving DecidableEq, Repr

namespace Position

/-- A position as text. -/
def text (p : Position) : String :=
  Text.Decimal.text p.row.toNat ++ "," ++ Text.Decimal.text p.col.toNat

/-- Positions are ordered by row, then by column. -/
def compare (p q : Position) : Ordering :=
  (Ord.compare p.row.toNat q.row.toNat).then (Ord.compare p.col.toNat q.col.toNat)

/-! ### On the grid -/

/-- Whether the cell is on the grid of the given side. -/
def within (p : Position) (side : UInt32) : Bool :=
  Axis.within (Int64.ofInt p.row.toNat) side && Axis.within (Int64.ofInt p.col.toNat) side

/-- Row and column lie between one and the side of the grid. -/
def OnGrid (p : Position) (side : UInt32) : Prop :=
  (1 ≤ p.row.toNat ∧ p.row.toNat ≤ side.toNat) ∧ 1 ≤ p.col.toNat ∧ p.col.toNat ≤ side.toNat

theorem within_iff {p : Position} {side : UInt32} : p.within side = true ↔ p.OnGrid side := by
  simp only [within, OnGrid, Bool.and_eq_true, Axis.within_iff, Word64.toInt_ofInt_toNat]
  omega

/-- The cell with the given coordinates, if it is on the grid of the given side. -/
def checked (row col : Int64) (side : UInt32) : Option Position :=
  if Axis.within row side && Axis.within col side then
    some ⟨Word64.narrow row, Word64.narrow col⟩
  else none

/-! ### Steps -/

/-- The neighbor in the direction of a facing, around the edge of the grid if need be, as it is
found by operations on words. -/
def tryStep (p : Position) (f : Facing) (side : UInt32) : Except Word64.Fault Position := do
  let row ← Axis.moved p.row f.offset.1 side
  let col ← Axis.moved p.col f.offset.2 side
  return ⟨row, col⟩

/-- None of these operations fails, wherever the step starts. -/
theorem exists_tryStep (p : Position) (f : Facing) (side : UInt32) :
    ∃ q, p.tryStep f side = .ok q ∧
      (q.row.toNat : Int) = (p.row.toNat + f.offset.1 - 1) % (Axis.length side).toNat + 1 ∧
      (q.col.toNat : Int) = (p.col.toNat + f.offset.2 - 1) % (Axis.length side).toNat + 1 := by
  obtain ⟨row, hrow, hrow'⟩ := Axis.exists_moved p.row f.offset_bounds.1 side
  obtain ⟨col, hcol, hcol'⟩ := Axis.exists_moved p.col f.offset_bounds.2 side
  refine ⟨⟨row, col⟩, ?_, hrow', hcol'⟩
  rw [tryStep, hrow, hcol]
  rfl

/-- The neighbor in the direction of a facing, around the edge of the grid if need be. -/
def step (p : Position) (f : Facing) (side : UInt32) : Position :=
  Word64.result (p.tryStep f side) ((p.exists_tryStep f side).imp fun _ h => h.1)

theorem tryStep_eq (p : Position) (f : Facing) (side : UInt32) :
    p.tryStep f side = .ok (p.step f side) := Word64.eq_ok_result _

theorem toNat_step (p : Position) (f : Facing) (side : UInt32) :
    ((p.step f side).row.toNat : Int) =
        (p.row.toNat + f.offset.1 - 1) % (Axis.length side).toNat + 1 ∧
      ((p.step f side).col.toNat : Int) =
        (p.col.toNat + f.offset.2 - 1) % (Axis.length side).toNat + 1 := by
  obtain ⟨q, hq, hplaces⟩ := p.exists_tryStep f side
  rw [tryStep_eq] at hq
  obtain rfl := Except.ok.inj hq
  exact hplaces

/-- A step leads onto the grid, wherever it starts. -/
theorem onGrid_step (p : Position) (f : Facing) {side : UInt32} (h : 1 ≤ side.toNat) :
    (p.step f side).OnGrid side :=
  ⟨Axis.bounds_of_remainder h (p.toNat_step f side).1,
   Axis.bounds_of_remainder h (p.toNat_step f side).2⟩

/-- The position after one step in the direction of each facing, in order. -/
def walk (p : Position) (side : UInt32) (fs : List Facing) : Position :=
  fs.foldl (fun q f => q.step f side) p

/-- The same walk, as it is found by operations on words. -/
def tryWalk (p : Position) (side : UInt32) (fs : List Facing) : Except Word64.Fault Position :=
  fs.foldlM (fun q f => q.tryStep f side) p

@[simp] theorem walk_nil (p : Position) (side : UInt32) : p.walk side [] = p := rfl

@[simp] theorem walk_cons (p : Position) (side : UInt32) (f : Facing) (fs : List Facing) :
    p.walk side (f :: fs) = (p.step f side).walk side fs := rfl

/-- Nothing fails on a walk, wherever it starts. -/
theorem tryWalk_eq (p : Position) (side : UInt32) (fs : List Facing) :
    p.tryWalk side fs = .ok (p.walk side fs) := by
  induction fs generalizing p with
  | nil => rfl
  | cons f fs ih =>
      rw [tryWalk, List.foldlM_cons, tryStep_eq, Word64.ok_bind]
      exact ih (p.step f side)

/-- The first `n` positions of a walk straight ahead. -/
def trail (p : Position) (f : Facing) (side : UInt32) : Nat → List Position
  | 0 => []
  | n + 1 => p.step f side :: trail (p.step f side) f side n

end Position

end TorusRobot
