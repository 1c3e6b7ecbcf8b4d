/-
**The axes of a grid that wraps around.**

A grid is a square of `side` by `side` cells, and both its axes run from `1` to `side`.  A value
past either end of an axis re-enters at the other, so the cells form a torus.  The place where it
does is found in words of 64 bits, and only the least of these words is out of reach.

Main definitions:

* `TorusRobot.Grid.defaultSide`, `TorusRobot.Grid.maxSide` — the usual and the greatest side;
* `TorusRobot.Grid.SideFault`, `TorusRobot.Grid.checkSide` — which sides are refused, and why;
* `TorusRobot.Axis.within` — whether a value lies on an axis;
* `TorusRobot.Axis.length` — the length of an axis, which is never zero;
* `TorusRobot.Axis.wrap` — the place on the axis where a value re-enters;
* `TorusRobot.Axis.moved` — the place of a coordinate that is displaced.

Main results:

* `TorusRobot.Grid.checkSide_eq_ok_iff` — the sides from `1` to `4096` are accepted;
* `TorusRobot.Axis.exists_wrap`, `TorusRobot.Axis.wrap_eq_error_iff` — every value but the least has
  a place;
* `TorusRobot.Axis.wrap_bounds` — a value re-enters on the axis.
-/
import TorusRobot.Grid.Word64
import TorusRobot.Text.Decimal

set_option relaxedAutoImplicit false
set_option autoImplicit false

namespace TorusRobot

/-! ### Side lengths -/

/-- The side of a grid for which none is asked. -/
def Grid.defaultSide : UInt32 := 5

/-- The greatest side. -/
def Grid.maxSide : UInt32 := 4096

/-- Why a side is refused. -/
inductive Grid.SideFault where
  | emptyGrid
  | tooLarge (side max : UInt32)
deriving DecidableEq, Repr

/-- The wording of a refused side. -/
def Grid.SideFault.message : Grid.SideFault → String
  | .emptyGrid => "grid must have at least one cell"
  | .tooLarge side max =>
    "grid size " ++ Text.Decimal.text side.toNat ++ " exceeds maximum of " ++
      Text.Decimal.text max.toNat

/-- A side as it is, or why it is refused. -/
def Grid.checkSide (side : UInt32) : Except Grid.SideFault UInt32 :=
  if side = 0 then .error .emptyGrid
  else if Grid.maxSide < side then .error (.tooLarge side Grid.maxSide)
  else .ok side

/-- The sides from `1` to `4096` are accepted, and as they are. -/
theorem Grid.checkSide_eq_ok_iff {side n : UInt32} :
    Grid.checkSide side = .ok n ↔ n = side ∧ 1 ≤ side.toNat ∧ side.toNat ≤ 4096 := by
  have hz : side = 0 ↔ side.toNat = 0 := by
    rw [← UInt32.toNat_inj]
    rfl
  have hm : Grid.maxSide < side ↔ 4096 < side.toNat := by
    rw [UInt32.lt_iff_toNat_lt]
    rfl
  unfold Grid.checkSide
  split
  · rename_i h
    simp [hz.1 h]
  · rename_i h
    rw [hz] at h
    split
    · rename_i h'
      rw [hm] at h'
      simp only [reduceCtorEq, false_iff]
      omega
    · rename_i h'
      rw [hm] at h'
      simp only [Except.ok.injEq]
      constructor
      · rintro rfl
        exact ⟨rfl, by omega, by omega⟩
      · rintro ⟨rfl, _⟩
        rfl

/-! ### Values on an axis -/

/-- Whether a value lies on the axis from `1` to `side`. -/
def Axis.within (value : Int64) (side : UInt32) : Bool :=
  decide (1 ≤ value.toInt) && decide (value.toInt ≤ side.toNat)

theorem Axis.within_iff {value : Int64} {side : UInt32} :
    Axis.within value side = true ↔ 1 ≤ value.toInt ∧ value.toInt ≤ side.toNat := by
  simp [Axis.within]

/-- A value on the axis loses nothing when it is cut down. -/
theorem Axis.toNat_narrow_of_within {value : Int64} {side : UInt32}
    (h : Axis.within value side = true) :
    ((Word64.narrow value).toNat : Int) = value.toInt := by
  obtain ⟨hlow, hhigh⟩ := Axis.within_iff.1 h
  have hside := side.toNat_lt
  exact Word64.toNat_narrow (by omega) (by omega)

/-! ### Re-entering -/

/-- The length of the axis that values are brought back onto.  An axis without cells counts as one
of a single cell. -/
def Axis.length (side : UInt32) : UInt32 := max side 1

/-- The place where a value re-enters the axis from `1` to `side`.  The value is counted from zero,
reduced modulo the length of the axis, and counted from one again, in words of 64 bits. -/
def Axis.wrap (value : Int64) (side : UInt32) : Except Word64.Fault UInt32 := do
  let fromZero ← Word64.sub value 1
  let rest ← Word64.remainder fromZero (Int64.ofInt (Axis.length side).toNat)
  let fromOne ← Word64.add rest 1
  return Word64.narrow fromOne

/-- The place of a coordinate after a displacement along the axis. -/
def Axis.moved (n : UInt32) (d : Int) (side : UInt32) : Except Word64.Fault UInt32 := do
  let value ← Word64.add (Int64.ofInt n.toNat) (Int64.ofInt d)
  Axis.wrap value side

theorem Axis.toNat_length (side : UInt32) : (Axis.length side).toNat = max side.toNat 1 := by
  change (if side ≤ 1 then (1 : UInt32) else side).toNat = _
  split
  · rename_i h
    rw [UInt32.le_iff_toNat_le] at h
    exact (Nat.max_eq_right h).symm
  · rename_i h
    rw [UInt32.not_le, UInt32.lt_iff_toNat_lt] at h
    exact (Nat.max_eq_left (Nat.le_of_lt h)).symm

/-- No word is left to count the least value from zero. -/
theorem Axis.wrap_minValue (side : UInt32) :
    Axis.wrap Int64.minValue side = .error .subtraction := rfl

/-- Every other value has a place, and it is that of the remainder. -/
theorem Axis.exists_wrap {value : Int64} (hv : value ≠ Int64.minValue) (side : UInt32) :
    ∃ n, Axis.wrap value side = .ok n ∧
      (n.toNat : Int) = (value.toInt - 1) % (Axis.length side).toNat + 1 := by
  have hpos : 1 ≤ (Axis.length side).toNat := Axis.toNat_length side ▸ Nat.le_max_right _ _
  have hlength := (Axis.length side).toNat_lt
  have hword := Word64.toInt_ofInt_toNat (Axis.length side)
  have hne : value.toInt ≠ Int64.minValue.toInt := fun h => hv (Int64.toInt_inj.1 h)
  have hlow := Int64.minValue_le_toInt value
  have hhigh := Int64.toInt_lt value
  rw [Int64.toInt_minValue] at hne hlow
  obtain ⟨zero, hsub, hzero⟩ := Word64.exists_sub (a := value) (b := 1)
    (by rw [Int64.toInt_one]; omega) (by rw [Int64.toInt_one]; omega)
  obtain ⟨rest, hremainder, hrest⟩ := Word64.exists_remainder zero
    (b := Int64.ofInt (Axis.length side).toNat) (by omega)
  rw [hzero, hword, Int64.toInt_one] at hrest
  have hleast := Int.emod_nonneg (value.toInt - 1) (b := ((Axis.length side).toNat : Int))
    (by omega)
  have hless := Int.emod_lt_of_pos (value.toInt - 1) (b := ((Axis.length side).toNat : Int))
    (by omega)
  obtain ⟨one, hadd, hone⟩ := Word64.exists_add (a := rest) (b := 1)
    (by rw [Int64.toInt_one]; omega) (by rw [Int64.toInt_one]; omega)
  rw [Int64.toInt_one] at hone
  refine ⟨Word64.narrow one, ?_, ?_⟩
  · simp only [Axis.wrap, hsub, hremainder, hadd, Word64.ok_bind]
    rfl
  · rw [Word64.toNat_narrow (by omega) (by omega), hone, hrest]

/-- Only the least value has no place. -/
theorem Axis.wrap_eq_error_iff {value : Int64} {side : UInt32} {e : Word64.Fault} :
    Axis.wrap value side = .error e ↔ value = Int64.minValue ∧ e = .subtraction := by
  by_cases hv : value = Int64.minValue
  · subst hv
    rw [Axis.wrap_minValue, Except.error.injEq]
    exact ⟨fun h => ⟨rfl, h.symm⟩, fun h => h.2.symm⟩
  · obtain ⟨n, hn, -⟩ := Axis.exists_wrap hv side
    simp [hn, hv]

/-- A place is that of the remainder. -/
theorem Axis.toNat_of_wrap_eq_ok {value : Int64} {side n : UInt32}
    (h : Axis.wrap value side = .ok n) :
    (n.toNat : Int) = (value.toInt - 1) % (Axis.length side).toNat + 1 := by
  have hv : value ≠ Int64.minValue := by
    rintro rfl
    cases h
  obtain ⟨m, hm, hplace⟩ := Axis.exists_wrap hv side
  rw [h] at hm
  obtain rfl := Except.ok.inj hm
  exact hplace

/-- A remainder counted from one is on the axis. -/
theorem Axis.bounds_of_remainder {side n : UInt32} {i : Int} (hside : 1 ≤ side.toNat)
    (hn : (n.toNat : Int) = i % (Axis.length side).toNat + 1) :
    1 ≤ n.toNat ∧ n.toNat ≤ side.toNat := by
  rw [Axis.toNat_length, Nat.max_eq_left hside] at hn
  have hpos := Int.emod_nonneg i (b := (side.toNat : Int)) (by omega)
  have hlt := Int.emod_lt_of_pos i (b := (side.toNat : Int)) (by omega)
  omega

/-- A value re-enters on the axis. -/
theorem Axis.wrap_bounds {value : Int64} {side n : UInt32} (hside : 1 ≤ side.toNat)
    (h : Axis.wrap value side = .ok n) : 1 ≤ n.toNat ∧ n.toNat ≤ side.toNat :=
  Axis.bounds_of_remainder hside (Axis.toNat_of_wrap_eq_ok h)

/-- A coordinate that is displaced by at most one has a place. -/
theorem Axis.exists_moved (n : UInt32) {d : Int} (hd : -1 ≤ d ∧ d ≤ 1) (side : UInt32) :
    ∃ m, Axis.moved n d side = .ok m ∧
      (m.toNat : Int) = (n.toNat + d - 1) % (Axis.length side).toNat + 1 := by
  have hn := n.toNat_lt
  have hcoordinate := Word64.toInt_ofInt_toNat n
  have hoffset : (Int64.ofInt d).toInt = d := Int64.toInt_ofInt_of_le (by omega) (by omega)
  obtain ⟨value, hadd, hvalue⟩ := Word64.exists_add (a := Int64.ofInt n.toNat) (b := Int64.ofInt d)
    (by omega) (by omega)
  rw [hcoordinate, hoffset] at hvalue
  have hleast : value ≠ Int64.minValue := by
    rintro rfl
    rw [Int64.toInt_minValue] at hvalue
    omega
  obtain ⟨m, hm, hplace⟩ := Axis.exists_wrap hleast side
  refine ⟨m, ?_, hvalue ▸ hplace⟩
  rw [Axis.moved, hadd, Word64.ok_bind, hm]

end TorusRobot
