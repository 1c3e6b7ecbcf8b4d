/-
**Decimal numbers.**

Numbers are written without sign, separators or leading zeros, and read with an optional sign and
any number of digits.  Reading is unbounded; a reader with a bound refuses what lies outside it, and
stops as soon as it knows that.

Main definitions:

* `TorusRobot.Text.Decimal.digits`, `TorusRobot.Text.Decimal.text` — writing a number;
* `TorusRobot.Text.Decimal.value` — the number that a run of digits stands for;
* `TorusRobot.Text.Decimal.natural?`, `TorusRobot.Text.Decimal.integer?` — reading a number;
* `TorusRobot.Text.Decimal.naturalBelow?`, `TorusRobot.Text.Decimal.integerWithin?` — reading a
  number within bounds;
* `TorusRobot.Text.Decimal.axisValue?` — reading a number of 64 bits with a sign.

Main results:

* `TorusRobot.Text.Decimal.naturalBelow?_eq`, `TorusRobot.Text.Decimal.integerWithin?_eq` — a reader
  with bounds reads what the unbounded one reads, if it lies within them;
* `TorusRobot.Text.Decimal.value_digits` — what is written reads back;
* `TorusRobot.Text.Decimal.isDigit_of_mem_digits` — only digits are written.
-/

set_option relaxedAutoImplicit false
set_option autoImplicit false

namespace TorusRobot.Text.Decimal

/-! ### Digits -/

/-- A decimal digit of ASCII; no other script's digits count. -/
def isDigit (c : Char) : Bool := '0' ≤ c && c ≤ '9'

/-- The number that a digit stands for. -/
def digitValue (c : Char) : Nat := c.toNat - '0'.toNat

/-- The digit that stands for a number below ten. -/
def digit (n : Nat) : Char := Char.ofNat ('0'.toNat + n)

theorem isDigit_digit {n : Nat} (h : n < 10) : isDigit (digit n) = true := by
  revert h
  revert n
  decide

theorem digitValue_digit {n : Nat} (h : n < 10) : digitValue (digit n) = n := by
  revert h
  revert n
  decide

/-! ### Writing -/

/-- The decimal digits of `n`, most significant first, without leading zeros. -/
def digits (n : Nat) : List Char :=
  if n < 10 then [digit n] else digits (n / 10) ++ [digit (n % 10)]
termination_by n
decreasing_by omega

/-- A natural number as text. -/
def text (n : Nat) : String := String.ofList (digits n)

/-- An integer as text: a minus sign goes before the digits of a negative one. -/
def signedText (i : Int) : String :=
  if i < 0 then "-" ++ text i.natAbs else text i.natAbs

/-! ### Reading -/

/-- The number that a run of digits stands for. -/
def value (ds : List Char) : Nat := ds.foldl (fun n c => 10 * n + digitValue c) 0

/-- A run of one or more digits. -/
def isNumeral (ds : List Char) : Bool := !ds.isEmpty && ds.all isDigit

/-- The value of a text that is one or more digits. -/
def magnitude? (s : List Char) : Option Nat :=
  if isNumeral s then some (value s) else none

/-- The value of an optional `+` and one or more digits. -/
def natural? : List Char → Option Nat
  | '+' :: s => magnitude? s
  | s => magnitude? s

/-- The value of an optional single sign and one or more digits. -/
def integer? : List Char → Option Int
  | '+' :: s => (magnitude? s).map Int.ofNat
  | '-' :: s => (magnitude? s).map fun n => -Int.ofNat n
  | s => (magnitude? s).map Int.ofNat

/-! ### Reading within bounds -/

/-- The number that `n` and a run of digits after it stand for, if it is below `bound`.  More digits
never make a number smaller, so reading stops at the first number that is not below `bound`. -/
def valueBelow? (bound n : Nat) : List Char → Option Nat
  | [] => if n < bound then some n else none
  | c :: ds => if n < bound then valueBelow? bound (10 * n + digitValue c) ds else none

/-- The value of a text that is one or more digits, if it is below `bound`. -/
def magnitudeBelow? (bound : Nat) (s : List Char) : Option Nat :=
  if isNumeral s then valueBelow? bound 0 s else none

/-- The value of an optional `+` and one or more digits, if it is below `bound`. -/
def naturalBelow? (bound : Nat) : List Char → Option Nat
  | '+' :: s => magnitudeBelow? bound s
  | s => magnitudeBelow? bound s

/-- The value of an optional single sign and one or more digits, if it is not below `-low` and not
above `high`. -/
def integerWithin? (low high : Nat) : List Char → Option Int
  | '+' :: s => (magnitudeBelow? (high + 1) s).map Int.ofNat
  | '-' :: s => (magnitudeBelow? (low + 1) s).map fun n => -Int.ofNat n
  | s => (magnitudeBelow? (high + 1) s).map Int.ofNat

/-- The value of an integer token that fits in 64 bits with a sign; any other text is refused. -/
def axisValue? (s : List Char) : Option Int64 :=
  (integerWithin? 0x8000000000000000 0x7FFFFFFFFFFFFFFF s).map Int64.ofInt

/-- Digits never make a number smaller. -/
theorem le_foldl_digitValue (ds : List Char) (n : Nat) :
    n ≤ ds.foldl (fun n c => 10 * n + digitValue c) n := by
  induction ds generalizing n with
  | nil => exact Nat.le_refl n
  | cons c ds ih =>
      have h := ih (10 * n + digitValue c)
      rw [List.foldl_cons]
      omega

/-- Stopping early changes no answer. -/
theorem valueBelow?_eq (bound n : Nat) (ds : List Char) :
    valueBelow? bound n ds =
      (some (ds.foldl (fun n c => 10 * n + digitValue c) n)).filter (· < bound) := by
  induction ds generalizing n with
  | nil => by_cases h : n < bound <;> simp [valueBelow?, Option.filter, h]
  | cons c ds ih =>
      have h := le_foldl_digitValue ds (10 * n + digitValue c)
      rw [valueBelow?, ih, List.foldl_cons]
      split
      · rfl
      · simp [Option.filter]
        omega

theorem magnitudeBelow?_eq (bound : Nat) (s : List Char) :
    magnitudeBelow? bound s = (magnitude? s).filter (· < bound) := by
  rw [magnitudeBelow?, magnitude?, valueBelow?_eq]
  split
  · rfl
  · rfl

/-- Reading below a bound is reading and then looking at the bound. -/
theorem naturalBelow?_eq (bound : Nat) (s : List Char) :
    naturalBelow? bound s = (natural? s).filter (· < bound) := by
  fun_cases naturalBelow? bound s with
  | case1 s => exact magnitudeBelow?_eq bound s
  | case2 s h => rw [magnitudeBelow?_eq, natural?]; exact h

/-- Reading within bounds is reading and then looking at the bounds. -/
theorem integerWithin?_eq (low high : Nat) (s : List Char) :
    integerWithin? low high s = (integer? s).filter fun i => -(low : Int) ≤ i ∧ i ≤ high := by
  fun_cases integerWithin? low high s with
  | case1 s =>
      rw [magnitudeBelow?_eq, integer?]
      cases magnitude? s with
      | none => rfl
      | some n => grind [Option.filter]
  | case2 s =>
      rw [magnitudeBelow?_eq, integer?]
      cases magnitude? s with
      | none => rfl
      | some n => grind [Option.filter]
  | case3 s hp hm =>
      rw [magnitudeBelow?_eq, integer?]
      · cases magnitude? s with
        | none => rfl
        | some n => grind [Option.filter]
      · exact hp
      · exact hm

/-- An integer is read within bounds exactly if it is read and lies within them. -/
theorem integerWithin?_eq_some_iff {low high : Nat} {s : List Char} {i : Int} :
    integerWithin? low high s = some i ↔
      integer? s = some i ∧ -(low : Int) ≤ i ∧ i ≤ high := by
  simp [integerWithin?_eq, Option.filter_eq_some_iff]

/-- An axis value is read exactly if an integer of 64 bits with a sign is. -/
theorem axisValue?_eq_some_iff {s : List Char} {v : Int64} :
    axisValue? s = some v ↔ integer? s = some v.toInt := by
  have hlow := Int64.le_toInt v
  have hhigh := Int64.toInt_lt v
  simp only [axisValue?, Option.map_eq_some_iff, integerWithin?_eq_some_iff]
  constructor
  · rintro ⟨i, ⟨hi, hl, hh⟩, rfl⟩
    rw [hi, Int64.toInt_ofInt_of_le (by omega) (by omega)]
  · intro h
    exact ⟨v.toInt, ⟨h, by omega, by omega⟩, Int64.ofInt_toInt v⟩

/-! ### Writing, then reading -/

theorem value_append_singleton (ds : List Char) (c : Char) :
    value (ds ++ [c]) = 10 * value ds + digitValue c := by
  simp [value]

/-- What is written reads back. -/
@[simp] theorem value_digits (n : Nat) : value (digits n) = n := by
  fun_induction digits n with
  | case1 n h => simp [value, digitValue_digit h]
  | case2 n h ih =>
      rw [value_append_singleton, ih, digitValue_digit (Nat.mod_lt n (by decide))]
      omega

/-- Only digits are written. -/
theorem isDigit_of_mem_digits {n : Nat} {c : Char} (h : c ∈ digits n) : isDigit c = true := by
  fun_induction digits n with
  | case1 n hn =>
      rw [List.mem_singleton] at h
      exact h ▸ isDigit_digit hn
  | case2 n hn ih =>
      rw [List.mem_append, List.mem_singleton] at h
      rcases h with h | rfl
      · exact ih h
      · exact isDigit_digit (Nat.mod_lt n (by decide))

/-- At least one digit is written. -/
theorem digits_ne_nil (n : Nat) : digits n ≠ [] := by
  rw [digits]
  split <;> simp

end TorusRobot.Text.Decimal
