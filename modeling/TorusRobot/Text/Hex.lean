/-
**Hexadecimal words.**

A 64-bit word is shown as sixteen lower-case hexadecimal digits, leading zeros included.

Main definitions:

* `TorusRobot.Text.Hex.digit` — one digit;
* `TorusRobot.Text.Hex.word` — the sixteen digits of a word.
-/

set_option relaxedAutoImplicit false
set_option autoImplicit false

namespace TorusRobot.Text.Hex

/-- The lower-case digit that stands for a number below sixteen. -/
def digit (n : Nat) : Char :=
  if n < 10 then Char.ofNat ('0'.toNat + n) else Char.ofNat ('a'.toNat + (n - 10))

/-- The last `width` hexadecimal digits of `n`, most significant first. -/
def digits : Nat → Nat → List Char
  | 0, _ => []
  | width + 1, n => digits width (n / 16) ++ [digit (n % 16)]

/-- A word as its sixteen digits. -/
def word (w : UInt64) : String := String.ofList (digits 16 w.toNat)

end TorusRobot.Text.Hex
