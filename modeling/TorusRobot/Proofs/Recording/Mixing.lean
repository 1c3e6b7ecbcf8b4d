/-
**How bytes are mixed into a hash.**

Mixing a byte in can be undone by who knows the byte, because the factor is odd.  So hashes that
differ go on to differ whatever bytes both of them take in, and a hash that takes in one byte or
another one comes out otherwise.  Of two bytes taken in one after the other this is not clear: the
second could hide what the first has changed.  It cannot, since the factor carries a change of the
first byte up to the bits from the fortieth on, and the second byte reaches eight bits only.

Main definitions:

* `TorusRobot.fnvFrom` — a hash after more bytes;
* `TorusRobot.fnvInverse` — the factor that undoes the factor.

Main results:

* `TorusRobot.toNat_fnv1a` — the hash in terms of numbers;
* `TorusRobot.fnvFrom_injective` — **hashes that differ go on to differ**;
* `TorusRobot.fnvFrom_pair_injective` — **two bytes in a row cannot hide each other**;
* `TorusRobot.fnvFrom_word32_injective` — nor can those of a small number.
-/
import Mathlib.Algebra.GroupWithZero.Nat
import Mathlib.Algebra.Order.Group.Unbundled.Int
import TorusRobot.Recording.Digest

set_option relaxedAutoImplicit false
set_option autoImplicit false

namespace TorusRobot

variable {h k : UInt64}

/-! ### More bytes -/

/-- A hash after more bytes. -/
def fnvFrom (h : UInt64) (bs : List UInt8) : UInt64 := bs.foldl fnvStep h

@[simp] theorem fnvFrom_nil (h : UInt64) : fnvFrom h [] = h := rfl

@[simp] theorem fnvFrom_cons (h : UInt64) (b : UInt8) (bs : List UInt8) :
    fnvFrom h (b :: bs) = fnvFrom (fnvStep h b) bs := rfl

theorem fnvFrom_append (h : UInt64) (bs cs : List UInt8) :
    fnvFrom h (bs ++ cs) = fnvFrom (fnvFrom h bs) cs :=
  List.foldl_append

theorem fnv1a_eq_fnvFrom (bs : List UInt8) : fnv1a bs = fnvFrom fnvOffset bs := rfl

theorem toNat_fnvStep (h : UInt64) (b : UInt8) :
    (fnvStep h b).toNat = (h.toNat ^^^ b.toNat) * 1099511628211 % 2 ^ 64 := by
  rw [fnvStep, UInt64.toNat_mul, UInt64.toNat_xor, UInt8.toNat_toUInt64]
  rfl

theorem toNat_fnvFrom (h : UInt64) (bs : List UInt8) :
    (fnvFrom h bs).toNat =
      bs.foldl (fun n b => (n ^^^ b.toNat) * 1099511628211 % 2 ^ 64) h.toNat := by
  induction bs generalizing h with
  | nil => rfl
  | cons b bs ih => rw [fnvFrom_cons, ih, toNat_fnvStep, List.foldl_cons]

/-- **The hash in terms of numbers**: from the offset on, each byte is mixed in by exclusive or, and
the result is multiplied by the prime and cut to 64 bits. -/
theorem toNat_fnv1a (bs : List UInt8) :
    (fnv1a bs).toNat =
      bs.foldl (fun n b => (n ^^^ b.toNat) * 1099511628211 % 2 ^ 64) 14695981039346656037 :=
  toNat_fnvFrom fnvOffset bs

/-! ### Undoing a step -/

/-- The factor that undoes the factor: their product is one modulo `2 ^ 64`. -/
def fnvInverse : UInt64 := 0xCE965057AFF6957B

theorem fnvPrime_mul_fnvInverse : fnvPrime * fnvInverse = 1 := by decide

theorem mul_fnvPrime_injective (e : h * fnvPrime = k * fnvPrime) : h = k := by
  have e' := congrArg (· * fnvInverse) e
  simpa only [UInt64.mul_assoc, fnvPrime_mul_fnvInverse, UInt64.mul_one] using e'

theorem fnvStep_left_injective {b : UInt8} (e : fnvStep h b = fnvStep k b) : h = k :=
  (UInt64.xor_left_inj _).1 (mul_fnvPrime_injective e)

/-- A hash that takes in one byte or another one comes out otherwise. -/
theorem fnvStep_right_injective {a b : UInt8} (e : fnvStep h a = fnvStep h b) : a = b := by
  have hbytes : a.toUInt64 = b.toUInt64 := (UInt64.xor_right_inj h).1 (mul_fnvPrime_injective e)
  rwa [← UInt64.toNat_inj, UInt8.toNat_toUInt64, UInt8.toNat_toUInt64, UInt8.toNat_inj] at hbytes

/-- **Hashes that differ go on to differ**, whatever bytes both of them take in. -/
theorem fnvFrom_injective {bs : List UInt8} (e : fnvFrom h bs = fnvFrom k bs) : h = k := by
  induction bs generalizing h k with
  | nil => exact e
  | cons b bs ih => exact fnvStep_left_injective (ih e)

/-! ### Two bytes in a row -/

/-- A byte reaches the last eight bits only. -/
theorem toNat_xor_byte_div (h : UInt64) (b : UInt8) :
    (h ^^^ b.toUInt64).toNat / 2 ^ 8 = h.toNat / 2 ^ 8 := by
  have hb : b.toNat / 2 ^ 8 = 0 := Nat.div_eq_of_lt b.toNat_lt
  rw [UInt64.toNat_xor, UInt8.toNat_toUInt64, Nat.xor_div_two_pow, hb, Nat.xor_zero]

/-- No small number but zero has a multiple by the prime that is small modulo `2 ^ 64`. -/
theorem eq_zero_of_mul_prime_small {d q : Int} (hd : |d| < 2 ^ 8)
    (hsmall : |d * 1099511628211 - 2 ^ 64 * q| < 2 ^ 8) : d = 0 := by
  rw [abs_lt] at hd hsmall
  -- the multiple itself is too small to be near any multiple of `2 ^ 64` but zero
  have hq : q = 0 := by omega
  omega

/-- Hashes that agree but for the last eight bits do not do so after they were multiplied, unless
they are the same. -/
theorem eq_of_mul_fnvPrime_near (hnear : h.toNat / 2 ^ 8 = k.toNat / 2 ^ 8)
    (hmul : (h * fnvPrime).toNat / 2 ^ 8 = (k * fnvPrime).toNat / 2 ^ 8) : h = k := by
  have hprime : fnvPrime.toNat = 1099511628211 := rfl
  rw [UInt64.toNat_mul, UInt64.toNat_mul, hprime] at hmul
  have hh := Nat.div_add_mod (h.toNat * 1099511628211) (2 ^ 64)
  have hk := Nat.div_add_mod (k.toNat * 1099511628211) (2 ^ 64)
  have hd : (h.toNat - k.toNat : Int) = 0 := by
    apply eq_zero_of_mul_prime_small
      (q := (h.toNat * 1099511628211 / 2 ^ 64 : Nat) - (k.toNat * 1099511628211 / 2 ^ 64 : Nat))
    · rw [abs_lt]
      omega
    · rw [abs_lt]
      omega
  rw [← UInt64.toNat_inj]
  omega

/-- **Two bytes in a row cannot hide each other**: a hash that takes in two bytes or two others
comes out otherwise. -/
theorem fnvFrom_pair_injective {a b c d : UInt8} (e : fnvFrom h [a, b] = fnvFrom h [c, d]) :
    a = c ∧ b = d := by
  have hxor : fnvStep h a ^^^ b.toUInt64 = fnvStep h c ^^^ d.toUInt64 := mul_fnvPrime_injective e
  have hmul : (fnvStep h a).toNat / 2 ^ 8 = (fnvStep h c).toNat / 2 ^ 8 := by
    rw [← toNat_xor_byte_div (fnvStep h a) b, hxor, toNat_xor_byte_div]
  have hnear : (h ^^^ a.toUInt64).toNat / 2 ^ 8 = (h ^^^ c.toUInt64).toNat / 2 ^ 8 := by
    rw [toNat_xor_byte_div, toNat_xor_byte_div]
  -- so the first step has made no difference, and then neither has the second
  have hfirst : fnvStep h a = fnvStep h c :=
    congrArg (· * fnvPrime) (eq_of_mul_fnvPrime_near hnear hmul)
  have hsecond : fnvStep (fnvStep h a) b = fnvStep (fnvStep h a) d := by
    calc
      fnvStep (fnvStep h a) b = fnvStep (fnvStep h c) d := e
      _ = fnvStep (fnvStep h a) d := by rw [hfirst]
  exact ⟨fnvStep_right_injective hfirst, fnvStep_right_injective hsecond⟩

/-- A hash that takes in the four bytes of a number or of another one comes out otherwise, if two
bytes are enough for both. -/
theorem fnvFrom_word32_injective {m n : UInt32} (hm : m.toNat < 2 ^ 16) (hn : n.toNat < 2 ^ 16)
    (e : fnvFrom h (LittleEndian.word32 m) = fnvFrom h (LittleEndian.word32 n)) : m = n := by
  have hsplit (n : UInt32) : LittleEndian.word32 n =
      LittleEndian.encode 2 n.toNat ++ LittleEndian.encode 2 (n.toNat / 256 / 256) := rfl
  have hm0 : m.toNat / 256 / 256 = 0 := by omega
  have hn0 : n.toNat / 256 / 256 = 0 := by omega
  rw [hsplit, hsplit, fnvFrom_append, fnvFrom_append, hm0, hn0] at e
  obtain ⟨hlow, hhigh⟩ := fnvFrom_pair_injective (fnvFrom_injective e)
  have hbytes : LittleEndian.encode 2 m.toNat = LittleEndian.encode 2 n.toNat := by
    simp only [LittleEndian.encode, hlow, hhigh]
  have hvalue := congrArg LittleEndian.decode hbytes
  rw [LittleEndian.decode_encode hm, LittleEndian.decode_encode hn] at hvalue
  exact UInt32.toNat_inj.1 hvalue

end TorusRobot
