/-
**The grammar of integers.**

A numeral is an optional sign and one or more digits of ASCII, as many as there may be; its value
is the sum of its digits times the powers of ten.  The reader of integers accepts the numerals and
nothing else, and what the writer of numbers writes is one.

Main definitions:

* `TorusRobot.Text.DigitRun` — one or more digits, and the number they stand for;
* `TorusRobot.Text.Numeral`, `TorusRobot.Text.NaturalNumeral` — a digit run with an optional sign,
  and one whose sign can only be a plus.

Main results:

* `TorusRobot.Text.Decimal.integer?_eq_some_iff`,
  `TorusRobot.Text.Decimal.naturalBelow?_eq_some_iff` — the readers accept exactly the numerals;
* `TorusRobot.Text.numeral_digits` — a written number is a numeral of its value.
-/
import Mathlib.Data.List.Induction
import Mathlib.Data.Nat.Digits.Defs
import TorusRobot.Proofs.Text.Blank
import TorusRobot.Text.Decimal

set_option relaxedAutoImplicit false
set_option autoImplicit false

namespace TorusRobot.Text

/-! ### The grammar -/

/-- One or more digits, the last of which counts ones, the one before it tens, and so on. -/
structure DigitRun (ds : List Char) (n : Nat) : Prop where
  ne_nil : ds ≠ []
  digits : ∀ c ∈ ds, c.isDigit = true
  value_eq : Nat.ofDigits 10 (ds.reverse.map fun c => c.toNat - 48) = n

/-- An optional single sign and a run of digits. -/
inductive Numeral : List Char → Int → Prop where
  | plain {ds : List Char} {n : Nat} (h : DigitRun ds n) : Numeral ds n
  | plus {ds : List Char} {n : Nat} (h : DigitRun ds n) : Numeral ('+' :: ds) n
  | minus {ds : List Char} {n : Nat} (h : DigitRun ds n) : Numeral ('-' :: ds) (-n)

/-- An optional plus sign and a run of digits. -/
inductive NaturalNumeral : List Char → Nat → Prop where
  | plain {ds : List Char} {n : Nat} (h : DigitRun ds n) : NaturalNumeral ds n
  | plus {ds : List Char} {n : Nat} (h : DigitRun ds n) : NaturalNumeral ('+' :: ds) n

namespace Decimal

/-! ### Reading -/

theorem isDigit_eq (c : Char) : isDigit c = c.isDigit := rfl

/-- Counting up from the first digit comes to the same as counting ones, tens and so on. -/
theorem value_eq_ofDigits (ds : List Char) :
    value ds = Nat.ofDigits 10 (ds.reverse.map fun c => c.toNat - 48) := by
  induction ds using List.reverseRecOn with
  | nil => rfl
  | append_singleton ds c ih =>
      rw [value_append_singleton, ih, List.reverse_append, List.reverse_singleton,
        List.singleton_append, List.map_cons, Nat.ofDigits_cons, Nat.add_comm]
      rfl

theorem magnitude?_eq_some_iff {ds : List Char} {n : Nat} :
    magnitude? ds = some n ↔ DigitRun ds n := by
  unfold magnitude? isNumeral
  simp only [Option.ite_none_right_eq_some, Option.some.injEq, Bool.and_eq_true,
    Bool.not_eq_true', List.isEmpty_eq_false_iff, List.all_eq_true, isDigit_eq, value_eq_ofDigits]
  constructor
  · rintro ⟨⟨hne, hdigits⟩, hvalue⟩
    exact ⟨hne, hdigits, hvalue⟩
  · intro h
    exact ⟨⟨h.ne_nil, h.digits⟩, h.value_eq⟩

theorem map_magnitude?_eq_some_iff {ds : List Char} {i : Int} {f : Nat → Int} :
    (magnitude? ds).map f = some i ↔ ∃ n, DigitRun ds n ∧ f n = i := by
  simp only [Option.map_eq_some_iff, magnitude?_eq_some_iff]

/-- **The reader accepts exactly the numerals**, and reads their value, however long they are. -/
theorem integer?_eq_some_iff {s : List Char} {i : Int} : integer? s = some i ↔ Numeral s i := by
  constructor
  · intro h
    fun_cases integer? s with
    | case1 ds =>
        rw [integer?] at h
        obtain ⟨n, hn, rfl⟩ := map_magnitude?_eq_some_iff.1 h
        exact .plus hn
    | case2 ds =>
        rw [integer?] at h
        obtain ⟨n, hn, rfl⟩ := map_magnitude?_eq_some_iff.1 h
        exact .minus hn
    | case3 _ hplus hminus =>
        rw [integer?] at h
        · obtain ⟨n, hn, rfl⟩ := map_magnitude?_eq_some_iff.1 h
          exact .plain hn
        · exact hplus
        · exact hminus
  · intro h
    cases h with
    | @plain _ n hn =>
        -- a sign is no digit
        rw [integer?]
        · exact map_magnitude?_eq_some_iff.2 ⟨n, hn, rfl⟩
        · rintro ds rfl
          have hsign := hn.digits '+' List.mem_cons_self
          cases hsign
        · rintro ds rfl
          have hsign := hn.digits '-' List.mem_cons_self
          cases hsign
    | @plus ds n hn => exact map_magnitude?_eq_some_iff.2 ⟨n, hn, rfl⟩
    | @minus ds n hn => exact map_magnitude?_eq_some_iff.2 ⟨n, hn, rfl⟩

/-- The reader of natural numbers knows no minus sign. -/
theorem natural?_eq_some_iff {s : List Char} {n : Nat} :
    natural? s = some n ↔ NaturalNumeral s n := by
  constructor
  · intro h
    fun_cases natural? s with
    | case1 ds =>
        rw [natural?] at h
        exact .plus (magnitude?_eq_some_iff.1 h)
    | case2 _ hplus =>
        rw [natural?] at h
        · exact .plain (magnitude?_eq_some_iff.1 h)
        · exact hplus
  · intro h
    cases h with
    | plain hn =>
        -- a sign is no digit
        rw [natural?]
        · exact magnitude?_eq_some_iff.2 hn
        · rintro ds rfl
          have hsign := hn.digits '+' List.mem_cons_self
          cases hsign
    | plus hn => exact magnitude?_eq_some_iff.2 hn

/-- **A natural number is read below a bound exactly if it is written and lies below it.** -/
theorem naturalBelow?_eq_some_iff {bound : Nat} {s : List Char} {n : Nat} :
    naturalBelow? bound s = some n ↔ NaturalNumeral s n ∧ n < bound := by
  rw [naturalBelow?_eq, Option.filter_eq_some_iff, natural?_eq_some_iff, decide_eq_true_eq]

end Decimal

/-! ### Written numbers -/

/-- What is written is a run of digits. -/
theorem digitRun_digits (n : Nat) : DigitRun (Decimal.digits n) n where
  ne_nil := Decimal.digits_ne_nil n
  digits := by
    intro c hc
    exact Decimal.isDigit_of_mem_digits hc
  value_eq := by rw [← Decimal.value_eq_ofDigits, Decimal.value_digits]

/-- **A written number is a numeral of its value.** -/
theorem numeral_digits (n : Nat) : Numeral (Decimal.digits n) n := .plain (digitRun_digits n)

theorem isBlank_of_isDigit {c : Char} (h : c.isDigit = true) : isBlank c = false := by
  rw [Char.isDigit, Bool.and_eq_true, decide_eq_true_eq, decide_eq_true_eq] at h
  have hclear : Uppercase.clearOfBlanks 48 57 = true := by decide
  exact Uppercase.isBlankCode_of_clear hclear h.1 h.2

/-- Digits are no blanks and no commas. -/
theorem digits_clear (n : Nat) :
    (∀ c ∈ Decimal.digits n, isBlank c = false) ∧ ',' ∉ Decimal.digits n := by
  constructor
  · intro c hc
    exact isBlank_of_isDigit (Decimal.isDigit_of_mem_digits hc)
  · intro hc
    have hdigit := Decimal.isDigit_of_mem_digits hc
    cases hdigit

end TorusRobot.Text
