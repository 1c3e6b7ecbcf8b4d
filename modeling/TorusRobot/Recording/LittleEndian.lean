/-
**Numbers as bytes, least significant byte first.**

Main definitions:

* `TorusRobot.LittleEndian.encode` — a number in a fixed count of bytes;
* `TorusRobot.LittleEndian.word32`, `TorusRobot.LittleEndian.word64` — the bytes of a word;
* `TorusRobot.LittleEndian.decode` — the number that bytes stand for;
* `TorusRobot.LittleEndian.capacity` — how many numbers a count of bytes can stand for.

Main results:

* `TorusRobot.LittleEndian.decode_encode`, `TorusRobot.LittleEndian.encode_decode` — the two undo
  each other;
* `TorusRobot.LittleEndian.decode_lt` — bytes stand for no number beyond their capacity.
-/

set_option relaxedAutoImplicit false
set_option autoImplicit false

namespace TorusRobot.LittleEndian

/-- The `width` lowest bytes of `n`, the lowest first. -/
def encode : Nat → Nat → List UInt8
  | 0, _ => []
  | width + 1, n => UInt8.ofNat n :: encode width (n / 256)

/-- The four bytes of a word. -/
def word32 (n : UInt32) : List UInt8 := encode 4 n.toNat

/-- The eight bytes of a word. -/
def word64 (n : UInt64) : List UInt8 := encode 8 n.toNat

/-- The number that bytes stand for. -/
def decode : List UInt8 → Nat
  | [] => 0
  | b :: bs => b.toNat + 256 * decode bs

/-- How many numbers `width` bytes can stand for. -/
def capacity : Nat → Nat
  | 0 => 1
  | width + 1 => 256 * capacity width

@[simp] theorem length_encode (width n : Nat) : (encode width n).length = width := by
  induction width generalizing n with
  | zero => rfl
  | succ width ih => simp [encode, ih]

@[simp] theorem length_word32 (n : UInt32) : (word32 n).length = 4 := length_encode 4 n.toNat

@[simp] theorem length_word64 (n : UInt64) : (word64 n).length = 8 := length_encode 8 n.toNat

/-- A number that fits in the bytes reads back. -/
theorem decode_encode {width n : Nat} (h : n < capacity width) : decode (encode width n) = n := by
  induction width generalizing n with
  | zero => exact (Nat.lt_one_iff.mp h).symm
  | succ width ih =>
      have hq : n / 256 < capacity width := Nat.div_lt_of_lt_mul h
      have hr : (UInt8.ofNat n).toNat = n % 256 := by simp
      rw [encode, decode, ih hq, hr]
      omega

@[simp] theorem decode_word32 (n : UInt32) : decode (word32 n) = n.toNat :=
  decode_encode n.toNat_lt

@[simp] theorem decode_word64 (n : UInt64) : decode (word64 n) = n.toNat :=
  decode_encode n.toNat_lt

/-- Bytes are the encoding of the number they stand for. -/
@[simp] theorem encode_decode (bs : List UInt8) : encode bs.length (decode bs) = bs := by
  induction bs with
  | nil => rfl
  | cons b bs ih =>
      have hb : b.toNat < 256 := b.toNat_lt
      have hd : (b.toNat + 256 * decode bs) / 256 = decode bs := by omega
      have hm : UInt8.ofNat (b.toNat + 256 * decode bs) = b := by
        rw [← UInt8.toNat_inj, UInt8.toNat_ofNat']
        omega
      rw [decode, List.length_cons, encode, hd, hm, ih]

/-- Bytes stand for a number that fits in them. -/
theorem decode_lt (bs : List UInt8) : decode bs < capacity bs.length := by
  induction bs with
  | nil => exact Nat.zero_lt_one
  | cons b bs ih =>
      have hb : b.toNat < 256 := b.toNat_lt
      rw [decode, List.length_cons, capacity]
      omega

/-- Four bytes are the word they stand for. -/
theorem word32_decode {bs : List UInt8} (h : bs.length = 4) :
    word32 (UInt32.ofNat (decode bs)) = bs := by
  have hd := decode_lt bs
  rw [h] at hd
  have hn : (UInt32.ofNat (decode bs)).toNat = decode bs := UInt32.toNat_ofNat_of_lt' hd
  rw [word32, hn, ← h, encode_decode]

/-- Eight bytes are the word they stand for. -/
theorem word64_decode {bs : List UInt8} (h : bs.length = 8) :
    word64 (UInt64.ofNat (decode bs)) = bs := by
  have hd := decode_lt bs
  rw [h] at hd
  have hn : (UInt64.ofNat (decode bs)).toNat = decode bs := UInt64.toNat_ofNat_of_lt' hd
  rw [word64, hn, ← h, encode_decode]

end TorusRobot.LittleEndian
