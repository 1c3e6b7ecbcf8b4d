/-
**Text as bytes.**

Texts are stored in UTF-8.  Bytes that are no text are refused with the place where they stop
being one: the length of the longest start that is text, and how many bytes from there on belong
together before the first byte that cannot follow them.

Main definitions:

* `TorusRobot.Text.Utf8.encode`, `TorusRobot.Text.Utf8.decode` — the two directions;
* `TorusRobot.Text.Utf8.Fault` — why bytes are no text;
* `TorusRobot.Text.Utf8.followers` — what may follow a lead byte.

Main results:

* `TorusRobot.Text.Utf8.decode_encode` — decoding undoes encoding;
* `TorusRobot.Text.Utf8.encode_of_decode` — only encodings are decoded.
-/
import TorusRobot.Text.Decimal

set_option relaxedAutoImplicit false
set_option autoImplicit false

namespace TorusRobot.Text.Utf8

/-! ### Faults -/

/-- Why bytes are no text. -/
inductive Fault where
  /-- The `size` bytes from `index` on start a character that the next byte does not continue, or
  the single byte there starts none. -/
  | illFormed (size index : Nat)
  /-- The bytes end inside the character that starts at `index`. -/
  | incomplete (index : Nat)
deriving DecidableEq, Repr

/-- The wording of a fault. -/
def Fault.message : Fault → String
  | .illFormed size index =>
    "invalid utf-8 sequence of " ++ Decimal.text size ++ " bytes from index " ++ Decimal.text index
  | .incomplete index => "incomplete utf-8 byte sequence from index " ++ Decimal.text index

/-! ### The shape of a character -/

/-- The ranges in which the bytes after a lead byte must lie, or `none` for a byte that starts no
character.  The first range excludes overlong forms, surrogates and what lies past the last code
point. -/
def followers (lead : UInt8) : Option (List (UInt8 × UInt8)) :=
  if lead < 0x80 then some []
  else if lead < 0xC2 then none
  else if lead < 0xE0 then some [(0x80, 0xBF)]
  else if lead = 0xE0 then some [(0xA0, 0xBF), (0x80, 0xBF)]
  else if lead = 0xED then some [(0x80, 0x9F), (0x80, 0xBF)]
  else if lead < 0xF0 then some [(0x80, 0xBF), (0x80, 0xBF)]
  else if lead = 0xF0 then some [(0x90, 0xBF), (0x80, 0xBF), (0x80, 0xBF)]
  else if lead < 0xF4 then some [(0x80, 0xBF), (0x80, 0xBF), (0x80, 0xBF)]
  else if lead = 0xF4 then some [(0x80, 0x8F), (0x80, 0xBF), (0x80, 0xBF)]
  else none

/-- The first fault of the bytes to come, when the current character starts at `start`, `seen` of
its bytes have been read, and the ranges of `awaited` are to follow. -/
def faultFrom (start seen : Nat) : List (UInt8 × UInt8) → List UInt8 → Option Fault
  | [], [] => none
  | _ :: _, [] => some (.incomplete start)
  | [], b :: bs =>
    match followers b with
    | none => some (.illFormed 1 start)
    | some [] => faultFrom (start + 1) 0 [] bs
    | some (r :: rs) => faultFrom start 1 (r :: rs) bs
  | [r], b :: bs =>
    if r.1 ≤ b ∧ b ≤ r.2 then faultFrom (start + (seen + 1)) 0 [] bs
    else some (.illFormed seen start)
  | r :: r' :: rs, b :: bs =>
    if r.1 ≤ b ∧ b ≤ r.2 then faultFrom start (seen + 1) (r' :: rs) bs
    else some (.illFormed seen start)

/-- The first fault of bytes that are no text. -/
def fault (bs : List UInt8) : Fault :=
  (faultFrom 0 0 [] bs).getD (.incomplete bs.length)

/-! ### The two directions -/

/-- The bytes of a text. -/
def encode (s : String) : List UInt8 := s.toByteArray.data.toList

/-- The text that bytes stand for, or the first fault of bytes that are no text. -/
def decode (bs : List UInt8) : Except Fault String :=
  match String.fromUTF8? ⟨bs.toArray⟩ with
  | some s => .ok s
  | none => .error (fault bs)

/-- Decoding undoes encoding. -/
@[simp] theorem decode_encode (s : String) : decode (encode s) = .ok s := by
  have h : (⟨(encode s).toArray⟩ : ByteArray) = s.toByteArray := by simp [encode]
  simp [decode, h, String.fromUTF8?, dif_pos s.isValidUTF8, String.fromUTF8]

/-- Only the encoding of a text decodes to it. -/
theorem encode_of_decode {bs : List UInt8} {s : String} (h : decode bs = .ok s) :
    encode s = bs := by
  rw [decode, String.fromUTF8?] at h
  split at h
  · rename_i t ht
    split at ht
    · cases ht
      cases h
      simp [encode, String.fromUTF8]
    · cases ht
  · cases h

@[simp] theorem encode_empty : encode "" = [] := rfl

/-- The number of bytes of a text. -/
theorem length_encode (s : String) : (encode s).length = s.utf8ByteSize := by
  rfl

end TorusRobot.Text.Utf8
