/-
**Words of 64 bits that refuse to overflow.**

A word of 64 bits with a sign stands for an integer.  An operation on words gives the word for what
the same operation gives on integers; where there is no such word, the operation fails.

Main definitions:

* `TorusRobot.Word64.Fault` — why an operation fails, and the wording of it;
* `TorusRobot.Word64.ofInt` — the word that stands for an integer, if there is one;
* `TorusRobot.Word64.add`, `TorusRobot.Word64.sub`, `TorusRobot.Word64.remainder` — operations that
  may fail;
* `TorusRobot.Word64.narrow` — a word cut down to 32 bits;
* `TorusRobot.Word64.result` — what a computation that does not fail comes to.

Main results:

* `TorusRobot.Word64.ofInt_eq_ok_iff` — the word for an integer is the one that stands for it;
* `TorusRobot.Word64.exists_add`, `TorusRobot.Word64.exists_sub`,
  `TorusRobot.Word64.exists_remainder` — when the operations do not fail;
* `TorusRobot.Word64.toNat_narrow` — cutting loses nothing that fits into 32 bits.
-/

set_option relaxedAutoImplicit false
set_option autoImplicit false

namespace TorusRobot.Word64

/-! ### Operations -/

/-- Why an operation on words fails. -/
inductive Fault where
  | addition
  | subtraction
  | remainder
  | zeroDivisor
deriving DecidableEq, Repr

/-- The wording of a fault. -/
def Fault.message : Fault → String
  | .addition => "attempt to add with overflow"
  | .subtraction => "attempt to subtract with overflow"
  | .remainder => "attempt to calculate the remainder with overflow"
  | .zeroDivisor => "attempt to calculate the remainder with a divisor of zero"

/-- The word that stands for an integer, or the given fault if there is none. -/
def ofInt (fault : Fault) (i : Int) : Except Fault Int64 :=
  if Int64.minValue.toInt ≤ i ∧ i ≤ Int64.maxValue.toInt then .ok (Int64.ofInt i) else .error fault

/-- The sum of two words. -/
def add (a b : Int64) : Except Fault Int64 := ofInt .addition (a.toInt + b.toInt)

/-- The difference of two words. -/
def sub (a b : Int64) : Except Fault Int64 := ofInt .subtraction (a.toInt - b.toInt)

/-- The least remainder of a division that is not negative.  It is always a word, but the division
itself fails if its quotient is none. -/
def remainder (a b : Int64) : Except Fault Int64 :=
  if b = 0 then .error .zeroDivisor
  else if a = Int64.minValue ∧ b = -1 then .error .remainder
  else ofInt .remainder (a.toInt % b.toInt)

/-- The last 32 bits of a word, without a sign. -/
def narrow (a : Int64) : UInt32 := a.toUInt64.toUInt32

/-! ### What they give -/

variable {a b c : Int64} {i : Int} {fault : Fault}

/-- The word for an integer is the one that stands for it. -/
theorem ofInt_eq_ok_iff : ofInt fault i = .ok c ↔ c.toInt = i := by
  have hlow : Int64.minValue.toInt ≤ c.toInt := Int64.minValue_le_toInt c
  have hhigh : c.toInt ≤ Int64.maxValue.toInt := Int64.toInt_le c
  unfold ofInt
  split
  · rename_i h
    rw [Except.ok.injEq, ← Int64.toInt_inj,
      Int64.toInt_ofInt_of_le h.1 (Int.lt_add_one_of_le h.2)]
    exact eq_comm
  · rename_i h
    simp only [reduceCtorEq, false_iff]
    rintro rfl
    exact h ⟨hlow, hhigh⟩

/-- Every integer from the least word to the greatest has a word. -/
theorem exists_ofInt (hlow : -0x8000000000000000 ≤ i) (hhigh : i ≤ 0x7FFFFFFFFFFFFFFF) :
    ∃ c, ofInt fault i = .ok c ∧ c.toInt = i := by
  have h : (Int64.ofInt i).toInt = i := Int64.toInt_ofInt_of_le hlow (Int.lt_add_one_of_le hhigh)
  exact ⟨Int64.ofInt i, ofInt_eq_ok_iff.2 h, h⟩

theorem exists_add (hlow : -0x8000000000000000 ≤ a.toInt + b.toInt)
    (hhigh : a.toInt + b.toInt ≤ 0x7FFFFFFFFFFFFFFF) :
    ∃ c, add a b = .ok c ∧ c.toInt = a.toInt + b.toInt := exists_ofInt hlow hhigh

theorem exists_sub (hlow : -0x8000000000000000 ≤ a.toInt - b.toInt)
    (hhigh : a.toInt - b.toInt ≤ 0x7FFFFFFFFFFFFFFF) :
    ∃ c, sub a b = .ok c ∧ c.toInt = a.toInt - b.toInt := exists_ofInt hlow hhigh

/-- A division by a positive word does not fail. -/
theorem exists_remainder (a : Int64) (h : 0 < b.toInt) :
    ∃ c, remainder a b = .ok c ∧ c.toInt = a.toInt % b.toInt := by
  have hzero : b ≠ 0 := by
    rintro rfl
    exact absurd h (by decide)
  have hone : ¬(a = Int64.minValue ∧ b = -1) := by
    rintro ⟨-, rfl⟩
    exact absurd h (by decide)
  have hpos := Int.emod_nonneg a.toInt (b := b.toInt) (by omega)
  have hless := Int.emod_lt_of_pos a.toInt h
  have hb := Int64.toInt_lt b
  rw [remainder, if_neg hzero, if_neg hone]
  exact exists_ofInt (by omega) (by omega)

theorem toInt_ofInt_toNat (n : UInt32) : (Int64.ofInt n.toNat).toInt = n.toNat := by
  have h := n.toNat_lt
  exact Int64.toInt_ofInt_of_le (by omega) (by omega)

/-- Cutting loses nothing of a number that fits into 32 bits. -/
theorem toNat_narrow (hlow : 0 ≤ a.toInt) (hhigh : a.toInt ≤ 0xFFFFFFFF) :
    ((narrow a).toNat : Int) = a.toInt := by
  have hpos : 0 ≤ a := Int64.le_iff_toInt_le.2 hlow
  have hcut : (narrow a).toNat = a.toInt.toNat % 2 ^ 32 := by
    rw [narrow, UInt64.toNat_toUInt32, Int64.toNat_toUInt64_of_le hpos, Int64.toNatClampNeg]
  omega

theorem narrow_ofInt_toNat (n : UInt32) : narrow (Int64.ofInt n.toNat) = n := by
  have hn := n.toNat_lt
  have hnarrow := toNat_narrow (a := Int64.ofInt n.toNat) (by rw [toInt_ofInt_toNat]; omega)
    (by rw [toInt_ofInt_toNat]; omega)
  rw [toInt_ofInt_toNat] at hnarrow
  exact UInt32.toNat_inj.1 (Int.ofNat_inj.1 hnarrow)

/-! ### Computations -/

variable {α β : Type} {x : Except Fault α}

@[simp] theorem ok_bind (v : α) (f : α → Except Fault β) : (Except.ok v >>= f) = f v := rfl

/-- What a computation comes to that does not fail. -/
def result : (x : Except Fault α) → (∃ v, x = .ok v) → α
  | .ok v, _ => v
  | .error _, h => False.elim (by obtain ⟨v, hv⟩ := h; cases hv)

theorem eq_ok_result (h : ∃ v, x = .ok v) : x = .ok (result x h) := by
  obtain ⟨v, rfl⟩ := h
  rfl

end TorusRobot.Word64
