/-
**Where values re-enter an axis, exactly.**

A value is brought back onto an axis in words of 64 bits, and the place is cut down to 32.  It is the
place that is meant, the one integer on the axis that is congruent to the value; neither the
operations on the way nor the cut lose anything of it.  One value alone is not brought back: the
least, since no word is left to count it from zero.

Main results:

* `TorusRobot.Axis.within_iff_wrap_eq` — a value lies on the axis if it re-enters where it is;
* `TorusRobot.Position.checked_eq_some_iff` — coordinates are accepted if both stay where they are;
* `TorusRobot.Axis.all_but_the_least_value_reenter` — **where values re-enter an axis**.
-/
import TorusRobot.Proofs.Grid.Torus

set_option relaxedAutoImplicit false
set_option autoImplicit false

namespace TorusRobot

variable {side : UInt32}

/-! ### Values that stay where they are -/

namespace Axis

variable {value : Int64} {n : UInt32}

/-- Wrapping gives the one place on the axis that is congruent to the value. -/
theorem wrap_unique (h : 1 ≤ side.toNat) (hv : value ≠ Int64.minValue) :
    ∃ n, wrap value side = .ok n ∧
      ∀ i : Int, (1 ≤ i ∧ i ≤ side.toNat ∧ i ≡ value.toInt [ZMOD side.toNat]) ↔ i = n.toNat :=
  ⟨place value.toInt side, wrap_of_ne h hv, fun _ => eq_toNat_place_iff h⟩

/-- A coordinate that lies on the axis is at its own place. -/
theorem wrap_eq_ok_of_within (h : 1 ≤ side.toNat) (hin : within value side = true) :
    wrap value side = .ok (Word64.narrow value) ∧
      ((Word64.narrow value).toNat : Int) = value.toInt := by
  have hbounds := within_iff.1 hin
  have hnarrow := toNat_narrow_of_within hin
  have hv : value ≠ Int64.minValue := by
    rintro rfl
    exact absurd hbounds.1 (by decide)
  refine ⟨?_, hnarrow⟩
  rw [wrap_of_ne h hv, ← hnarrow, place_toNat (by omega)]

/-- A value lies on the axis if it re-enters where it is. -/
theorem within_iff_wrap_eq (h : 1 ≤ side.toNat) :
    within value side = true ↔ ∃ n, wrap value side = .ok n ∧ (n.toNat : Int) = value.toInt := by
  constructor
  · intro hin
    exact ⟨_, wrap_eq_ok_of_within h hin⟩
  · rintro ⟨n, hn, hfix⟩
    have hbounds := wrap_bounds h hn
    exact within_iff.2 (by omega)

end Axis

/-! ### Coordinates -/

/-- Coordinates are accepted if both re-enter where they are, and then they lose nothing. -/
theorem Position.checked_eq_some_iff (h : 1 ≤ side.toNat) {row col : Int64} {p : Position} :
    Position.checked row col side = some p ↔
      (Axis.wrap row side = .ok p.row ∧ (p.row.toNat : Int) = row.toInt) ∧
      Axis.wrap col side = .ok p.col ∧ (p.col.toNat : Int) = col.toInt := by
  unfold checked
  split
  · rename_i hin
    rw [Bool.and_eq_true] at hin
    have hrow := Axis.wrap_eq_ok_of_within h hin.1
    have hcol := Axis.wrap_eq_ok_of_within h hin.2
    obtain ⟨r, c⟩ := p
    rw [Option.some.injEq, Position.mk.injEq, hrow.1, hcol.1, Except.ok.injEq, Except.ok.injEq]
    constructor
    · rintro ⟨rfl, rfl⟩
      exact ⟨⟨rfl, hrow.2⟩, rfl, hcol.2⟩
    · rintro ⟨⟨hr, -⟩, hc, -⟩
      exact ⟨hr, hc⟩
  · rename_i hout
    simp only [reduceCtorEq, false_iff]
    rintro ⟨hrow, hcol⟩
    apply hout
    rw [Bool.and_eq_true, Axis.within_iff_wrap_eq h, Axis.within_iff_wrap_eq h]
    exact ⟨⟨_, hrow⟩, _, hcol⟩

/-! ### Every value -/

/-- **Where values re-enter an axis.**  Every value but the least re-enters at the one integer from
`1` to the length of the axis that is congruent to it modulo the length, and nothing overflows while
that is looked for.  The least value alone fails, since it cannot be counted from zero.  Whatever
re-enters does so on the axis, and coordinates are accepted as they are exactly if both re-enter
where they are. -/
theorem Axis.all_but_the_least_value_reenter {side : UInt32} (h : 1 ≤ side.toNat) :
    (∀ value : Int64, value ≠ Int64.minValue →
      ∃ n, Axis.wrap value side = .ok n ∧
        ∀ i : Int, (1 ≤ i ∧ i ≤ side.toNat ∧ i ≡ value.toInt [ZMOD side.toNat]) ↔
          i = n.toNat) ∧
    (∀ (value : Int64) (e : Word64.Fault), Axis.wrap value side = .error e ↔
      value = Int64.minValue ∧ e = .subtraction) ∧
    (∀ (value : Int64) (n : UInt32), Axis.wrap value side = .ok n →
      Axis.within (Int64.ofInt n.toNat) side = true) ∧
    ∀ (row col : Int64) (p : Position), Position.checked row col side = some p ↔
      (Axis.wrap row side = .ok p.row ∧ (p.row.toNat : Int) = row.toInt) ∧
      Axis.wrap col side = .ok p.col ∧ (p.col.toNat : Int) = col.toInt := by
  refine ⟨fun value hv => Axis.wrap_unique h hv, fun value e => Axis.wrap_eq_error_iff, ?_, ?_⟩
  · intro value n hn
    have hbounds := Axis.wrap_bounds h hn
    rw [Axis.within_iff, Word64.toInt_ofInt_toNat]
    omega
  · intro row col p
    exact Position.checked_eq_some_iff h

/-- The hypotheses of `TorusRobot.Axis.all_but_the_least_value_reenter` are met by the longest axis
that a word can measure: the greatest value re-enters it in the middle, the least does not, and its
far corner is accepted. -/
theorem Axis.all_but_the_least_value_reenter_longest :
    1 ≤ (4294967295 : UInt32).toNat ∧ Int64.maxValue ≠ Int64.minValue ∧
    Axis.wrap Int64.maxValue 4294967295 = .ok 2147483647 ∧
    (∃ n, Axis.wrap Int64.maxValue 4294967295 = .ok n ∧
      ∀ i : Int, (1 ≤ i ∧ i ≤ 4294967295 ∧ i ≡ 9223372036854775807 [ZMOD 4294967295]) ↔
        i = n.toNat) ∧
    Axis.wrap Int64.minValue 4294967295 = .error .subtraction ∧
    Axis.within (Int64.ofInt (2147483647 : UInt32).toNat) 4294967295 = true ∧
    Position.checked 4294967295 1 4294967295 = some ⟨4294967295, 1⟩ := by
  have hside : 1 ≤ (4294967295 : UInt32).toNat := by decide
  have hne : Int64.maxValue ≠ Int64.minValue := by decide
  have hmax : Axis.wrap Int64.maxValue 4294967295 = .ok 2147483647 := by decide
  obtain ⟨hvalue, hleast, hwithin, hchecked⟩ := Axis.all_but_the_least_value_reenter hside
  refine ⟨hside, hne, hmax, hvalue Int64.maxValue hne, (hleast _ _).2 ⟨rfl, rfl⟩,
    hwithin Int64.maxValue _ hmax, ?_⟩
  exact (hchecked 4294967295 1 ⟨4294967295, 1⟩).2 (by decide)

/-- On an axis of five cells the second is the one that is congruent to the least value, but the
least value does not re-enter. -/
theorem Axis.least_value_does_not_reenter :
    (2 : Int) ≡ Int64.minValue.toInt [ZMOD 5] ∧
    Axis.wrap Int64.minValue 5 = .error .subtraction ∧
    ¬∀ (value : Int64) (side : UInt32), 1 ≤ side.toNat →
      ∃ n, Axis.wrap value side = .ok n ∧ 1 ≤ n.toNat ∧ n.toNat ≤ side.toNat ∧
        (n.toNat : Int) ≡ value.toInt [ZMOD side.toNat] := by
  refine ⟨by decide, rfl, ?_⟩
  intro hall
  obtain ⟨n, hn, -⟩ := hall Int64.minValue 5 (by decide)
  cases hn

end TorusRobot
