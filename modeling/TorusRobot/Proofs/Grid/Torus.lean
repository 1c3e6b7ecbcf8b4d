/-
**Displacements on the torus.**

A displacement by any number of rows and columns, around the edges as often as need be, ends on one
cell of the grid: each coordinate is counted from zero, displaced, reduced modulo the side, and
counted from one again.  Displacements add up, and a step is the shortest of them.  So where a walk
ends does not depend on how it went, and every step can be taken back.

Main definitions:

* `TorusRobot.Axis.place` — the place on an axis of a value that may lie past its ends;
* `TorusRobot.Position.displaced` — the cell at a displacement from a position;
* `TorusRobot.Position.afar` — the cell so many steps away in the direction of a facing.

Main results:

* `TorusRobot.Axis.eq_toNat_place_iff` — the place of a value is the one on the axis that is
  congruent to it modulo the side;
* `TorusRobot.Axis.wrap_of_ne` — every value but the least is wrapped to its place;
* `TorusRobot.Position.step_eq_displaced` — a step is a displacement;
* `TorusRobot.Position.displaced_displaced` — displacements add up;
* `TorusRobot.Position.afar_side` — as many steps as the side is long lead back to the start;
* `TorusRobot.Position.step_step_back` — a step is taken back by a step in the other direction.
-/
import Mathlib.Data.Int.ModEq
import TorusRobot.Grid.Position

set_option relaxedAutoImplicit false
set_option autoImplicit false

namespace TorusRobot

namespace Axis

variable {side : UInt32}

/-! ### Places -/

/-- The place on the axis from `1` to `side` of a value that may lie past its ends. -/
def place (i : Int) (side : UInt32) : UInt32 :=
  UInt32.ofNat (((i - 1) % side.toNat).toNat + 1)

/-- The place is that of the remainder; as a word it loses nothing. -/
theorem toNat_place (i : Int) (h : 1 ≤ side.toNat) :
    ((place i side).toNat : Int) = (i - 1) % side.toNat + 1 := by
  have hpos := Int.emod_nonneg (i - 1) (b := (side.toNat : Int)) (by omega)
  have hlt := Int.emod_lt_of_pos (i - 1) (b := (side.toNat : Int)) (by omega)
  have hside := side.toNat_lt
  rw [place, UInt32.toNat_ofNat_of_lt' (by simp only [UInt32.size]; omega)]
  omega

theorem place_bounds (i : Int) (h : 1 ≤ side.toNat) :
    1 ≤ (place i side).toNat ∧ (place i side).toNat ≤ side.toNat := by
  have hplace := toNat_place i h
  have hpos := Int.emod_nonneg (i - 1) (b := (side.toNat : Int)) (by omega)
  have hlt := Int.emod_lt_of_pos (i - 1) (b := (side.toNat : Int)) (by omega)
  omega

/-- A value and its place differ by a multiple of the side. -/
theorem toNat_place_modEq (i : Int) (h : 1 ≤ side.toNat) :
    ((place i side).toNat : Int) ≡ i [ZMOD side.toNat] := by
  have hmod : (i - 1) % side.toNat + 1 ≡ i - 1 + 1 [ZMOD side.toNat] :=
    (Int.mod_modEq (i - 1) side.toNat).add_right 1
  rwa [toNat_place i h, ← Int.sub_add_cancel i 1, Int.add_sub_cancel]

/-- **The place of a value is the one on the axis that is congruent to it.** -/
theorem eq_toNat_place_iff {i k : Int} (h : 1 ≤ side.toNat) :
    (1 ≤ k ∧ k ≤ side.toNat ∧ k ≡ i [ZMOD side.toNat]) ↔ k = (place i side).toNat := by
  constructor
  · rintro ⟨hlow, hhigh, hmod⟩
    have hrest : (k - 1) % side.toNat = (i - 1) % side.toNat := hmod.sub_right 1
    rw [Int.emod_eq_of_lt (by omega) (by omega)] at hrest
    rw [toNat_place i h, ← hrest, Int.sub_add_cancel]
  · rintro rfl
    have hbounds := place_bounds i h
    exact ⟨by omega, by omega, toNat_place_modEq i h⟩

theorem eq_place_of_modEq {n : UInt32} {i : Int} (hn : 1 ≤ n.toNat ∧ n.toNat ≤ side.toNat)
    (hmod : (n.toNat : Int) ≡ i [ZMOD side.toNat]) : n = place i side := by
  have hplace := (eq_toNat_place_iff (by omega)).1 ⟨by omega, by omega, hmod⟩
  rw [← UInt32.toNat_inj]
  omega

/-- Values that are congruent have the same place. -/
theorem place_congr {i k : Int} (hmod : i ≡ k [ZMOD side.toNat]) : place i side = place k side := by
  have hrest : (i - 1) % side.toNat = (k - 1) % side.toNat := hmod.sub_right 1
  rw [place, place, hrest]

/-- Values have the same place if they are congruent, and not otherwise. -/
theorem place_eq_place_iff {i k : Int} (h : 1 ≤ side.toNat) :
    place i side = place k side ↔ i ≡ k [ZMOD side.toNat] := by
  constructor
  · intro hplace
    have hi := toNat_place_modEq i h
    rw [hplace] at hi
    exact hi.symm.trans (toNat_place_modEq k h)
  · exact place_congr

/-- A remainder counted from one is the place of the value. -/
theorem eq_place_of_remainder {n : UInt32} {i : Int} (h : 1 ≤ side.toNat)
    (hn : (n.toNat : Int) = (i - 1) % (length side).toNat + 1) : n = place i side := by
  rw [toNat_length, Nat.max_eq_left h, ← toNat_place i h] at hn
  exact UInt32.toNat_inj.1 (Int.ofNat_inj.1 hn)

/-- Wrapping gives the place of every value but the least. -/
theorem wrap_of_ne {value : Int64} (h : 1 ≤ side.toNat) (hv : value ≠ Int64.minValue) :
    wrap value side = .ok (place value.toInt side) := by
  obtain ⟨n, hn, hrest⟩ := exists_wrap hv side
  rw [hn, eq_place_of_remainder h hrest]

/-- It makes no difference whether a value is brought back onto the axis before it is displaced. -/
theorem place_place_add (i k : Int) (h : 1 ≤ side.toNat) :
    place ((place i side).toNat + k) side = place (i + k) side :=
  place_congr ((toNat_place_modEq i h).add_right k)

/-- A value on the axis is at its own place. -/
theorem place_toNat {n : UInt32} (hn : 1 ≤ n.toNat ∧ n.toNat ≤ side.toNat) :
    place n.toNat side = n :=
  (eq_place_of_modEq hn rfl).symm

/-- Once around the axis there is no displacement. -/
theorem place_add_side_mul (i k : Int) : place (i + side.toNat * k) side = place i side :=
  place_congr (Int.add_mul_emod_self_left i side.toNat k)

end Axis

/-- The displacement of one step backward. -/
theorem Facing.offset_left_left (f : Facing) :
    f.left.left.offset = (-f.offset.1, -f.offset.2) := by
  cases f <;> rfl

namespace Position

variable {side : UInt32}

/-! ### Displacements -/

/-- The cell at a displacement of so many rows and columns, on a grid of the given side. -/
def displaced (p : Position) (d : Int × Int) (side : UInt32) : Position :=
  ⟨Axis.place (p.row.toNat + d.1) side, Axis.place (p.col.toNat + d.2) side⟩

/-- A step is a displacement by one cell. -/
theorem step_eq_displaced (p : Position) (f : Facing) (h : 1 ≤ side.toNat) :
    p.step f side = p.displaced f.offset side := by
  obtain ⟨hrow, hcol⟩ := p.toNat_step f side
  rw [displaced, ← Axis.eq_place_of_remainder h hrow, ← Axis.eq_place_of_remainder h hcol]

/-- **Displacements add up.** -/
theorem displaced_displaced (p : Position) (d e : Int × Int) (h : 1 ≤ side.toNat) :
    (p.displaced d side).displaced e side = p.displaced (d.1 + e.1, d.2 + e.2) side := by
  simp only [displaced, Axis.place_place_add _ _ h, Int.add_assoc]

/-- Whole turns around the grid lead nowhere. -/
theorem displaced_side_mul {p : Position} (hp : p.OnGrid side) (k l : Int) :
    p.displaced (side.toNat * k, side.toNat * l) side = p := by
  simp only [displaced, Axis.place_add_side_mul, Axis.place_toNat hp.1, Axis.place_toNat hp.2]

theorem displaced_zero {p : Position} (hp : p.OnGrid side) : p.displaced (0, 0) side = p := by
  simpa using displaced_side_mul hp 0 0

/-! ### Straight ahead -/

/-- The cell `j` steps from a position in the direction of a facing. -/
def afar (p : Position) (f : Facing) (side : UInt32) (j : Nat) : Position :=
  p.displaced (j * f.offset.1, j * f.offset.2) side

theorem afar_zero {p : Position} (f : Facing) (hp : p.OnGrid side) : p.afar f side 0 = p := by
  simpa [afar] using displaced_zero hp

theorem afar_one (p : Position) (f : Facing) (h : 1 ≤ side.toNat) :
    p.afar f side 1 = p.step f side := by
  simp [afar, step_eq_displaced p f h]

/-- A step brings all cells ahead one step closer. -/
theorem afar_step (p : Position) (f : Facing) (h : 1 ≤ side.toNat) (j : Nat) :
    (p.step f side).afar f side j = p.afar f side (j + 1) := by
  rw [step_eq_displaced p f h, afar, displaced_displaced p _ _ h, afar]
  simp only [Int.natCast_add, Int.natCast_one, Int.add_mul, Int.one_mul, Int.add_comm]

/-- One step more leads one cell further. -/
theorem step_afar (p : Position) (f : Facing) (h : 1 ≤ side.toNat) (j : Nat) :
    (p.afar f side j).step f side = p.afar f side (j + 1) := by
  rw [step_eq_displaced _ f h, afar, displaced_displaced p _ _ h, afar]
  simp only [Int.natCast_add, Int.natCast_one, Int.add_mul, Int.one_mul]

/-- **As many steps as the side is long lead back to the start.** -/
theorem afar_side {p : Position} (f : Facing) (hp : p.OnGrid side) :
    p.afar f side side.toNat = p :=
  displaced_side_mul hp f.offset.1 f.offset.2

/-- **A step is taken back** by a step in the other direction. -/
theorem step_step_back {p : Position} (f : Facing) (hp : p.OnGrid side) :
    (p.step f side).step f.left.left side = p := by
  have h : 1 ≤ side.toNat := hp.1.1.trans hp.1.2
  rw [step_eq_displaced _ _ h, step_eq_displaced _ _ h, displaced_displaced p _ _ h,
    Facing.offset_left_left, Int.add_right_neg, Int.add_right_neg, displaced_zero hp]

end Position

end TorusRobot
