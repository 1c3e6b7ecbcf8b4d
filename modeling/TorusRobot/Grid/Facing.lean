/-
**Facings and turns.**

The robot faces one of four directions, which a turn to the right runs through in the order north,
east, south, west.

Main definitions:

* `TorusRobot.Facing` — the directions, their names and their places in the cycle;
* `TorusRobot.Facing.left`, `TorusRobot.Facing.right` — the neighbours in the cycle;
* `TorusRobot.Facing.offset` — the displacement of one step;
* `TorusRobot.Turn` — a turn by a quarter.

Main results:

* `TorusRobot.Facing.ofName_eq_ok_iff` — only the four names are read;
* `TorusRobot.Facing.left_right`, `TorusRobot.Facing.right_left` — turns cancel.
-/

set_option relaxedAutoImplicit false
set_option autoImplicit false

namespace TorusRobot

/-! ### Facings -/

/-- The direction in which the robot looks and moves. -/
inductive Facing where
  /-- Toward greater rows. -/
  | north
  /-- Toward greater columns. -/
  | east
  /-- Toward smaller rows. -/
  | south
  /-- Toward smaller columns. -/
  | west
deriving DecidableEq, Repr

namespace Facing

/-- The facings in the order of turns to the right. -/
def all : List Facing := [north, east, south, west]

theorem mem_all (f : Facing) : f ∈ all := by
  cases f <;> decide

/-- The place of a facing in the cycle, from zero. -/
def index : Facing → Fin 4
  | north => 0
  | east => 1
  | south => 2
  | west => 3

/-- The facing at a place in the cycle. -/
def ofIndex : Fin 4 → Facing
  | 0 => north
  | 1 => east
  | 2 => south
  | 3 => west

/-- The facing at place `n` of the cycle, if there is one. -/
def ofNat? (n : Nat) : Option Facing :=
  if h : n < 4 then some (ofIndex ⟨n, h⟩) else none

/-- The facing after a quarter turn to the left. -/
def left (f : Facing) : Facing := ofIndex (f.index + 3)

/-- The facing after a quarter turn to the right. -/
def right (f : Facing) : Facing := ofIndex (f.index + 1)

@[simp] theorem left_right (f : Facing) : f.right.left = f := by
  cases f <;> rfl

@[simp] theorem right_left (f : Facing) : f.left.right = f := by
  cases f <;> rfl

/-- The displacement `(rows, columns)` of one step. -/
def offset : Facing → Int × Int
  | north => (1, 0)
  | east => (0, 1)
  | south => (-1, 0)
  | west => (0, -1)

theorem offset_bounds (f : Facing) :
    (-1 ≤ f.offset.1 ∧ f.offset.1 ≤ 1) ∧ -1 ≤ f.offset.2 ∧ f.offset.2 ≤ 1 := by
  cases f <;> decide

/-! ### Names -/

/-- The name of a facing. -/
def name : Facing → String
  | north => "NORTH"
  | east => "EAST"
  | south => "SOUTH"
  | west => "WEST"

theorem name_injective {f g : Facing} (h : f.name = g.name) : f = g := by
  revert h
  cases f <;> cases g <;> decide

/-- A token that names no facing. -/
structure Unrecognized where
  token : String
deriving DecidableEq, Repr

/-- The wording of an unrecognized facing. -/
def Unrecognized.message (u : Unrecognized) : String :=
  "unrecognized facing '" ++ u.token ++ "' (expected NORTH, EAST, SOUTH or WEST)"

/-- The facing with a given name; upper and lower case differ. -/
def ofName (token : String) : Except Unrecognized Facing :=
  match all.find? fun f => f.name = token with
  | some f => .ok f
  | none => .error ⟨token⟩

/-- Only the four names are read. -/
theorem ofName_eq_ok_iff {token : String} {f : Facing} : ofName token = .ok f ↔ token = f.name := by
  unfold ofName
  split
  · rename_i g hg
    have h := List.find?_some hg
    rw [decide_eq_true_eq] at h
    rw [Except.ok.injEq, ← h]
    exact ⟨fun e => e ▸ rfl, fun e => name_injective e⟩
  · rename_i hn
    rw [List.find?_eq_none] at hn
    have h := hn f (mem_all f)
    simp only [decide_eq_true_eq] at h
    simp only [reduceCtorEq, false_iff]
    exact fun e => h e.symm

end Facing

/-! ### Turns -/

/-- A quarter turn. -/
inductive Turn where
  /-- Against the clock. -/
  | left
  /-- With the clock. -/
  | right
deriving DecidableEq, Repr

/-- The facing after a turn. -/
def Turn.apply : Turn → Facing → Facing
  | .left, f => f.left
  | .right, f => f.right

/-- The name of a turn. -/
def Turn.name : Turn → String
  | .left => "LEFT"
  | .right => "RIGHT"

end TorusRobot
