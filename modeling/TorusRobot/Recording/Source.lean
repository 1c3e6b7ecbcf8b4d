/-
**Sources of bytes.**

A source hands out its bytes as it likes: a read may be interrupted, and it may give fewer bytes
than were asked for.  Readers therefore ask again until they have what they need, the bytes end, or
the device fails.

Main definitions:

* `TorusRobot.Recording.Source` — bytes to come, and how they are handed out;
* `TorusRobot.Recording.Source.read` — one read;
* `TorusRobot.Recording.Source.gather` — reads until enough bytes have come;
* `TorusRobot.Recording.Source.readExact` — a given number of bytes, or a fault.

Main results:

* `TorusRobot.Recording.Source.length_gather_le` — no bytes are put back;
* `TorusRobot.Recording.Source.length_gather_of_complete` — all the bytes gathered are consumed.
-/
import TorusRobot.Recording.Transfer

set_option relaxedAutoImplicit false
set_option autoImplicit false

namespace TorusRobot.Recording

/-- What happens at a read that does not simply hand out what was asked for. -/
inductive Cue where
  /-- The read is interrupted before any byte is handed out. -/
  | interrupt
  /-- At most so many bytes are handed out, but at least one if there is one. -/
  | short (most : Nat)
deriving DecidableEq, Repr

/-- Bytes to be read, and how they are handed out. -/
structure Source where
  pending : List UInt8
  /-- What happens at the next reads; later ones hand out what is asked for. -/
  cues : List Cue := []
  /-- After how many more bytes reads fail, if they ever do. -/
  allowance : Option Nat := none
deriving DecidableEq, Repr

/-- What one read brings. -/
inductive Delivery where
  /-- Bytes; none of them at the end of the source. -/
  | bytes (bs : List UInt8)
  /-- Nothing, but the read may be tried again. -/
  | interrupted
  /-- Nothing, now and ever. -/
  | failed
deriving DecidableEq, Repr

/-- What many reads have brought. -/
inductive Gathering where
  | complete (bs : List UInt8)
  /-- Fewer bytes, because there were no more. -/
  | ended (bs : List UInt8)
  /-- The device failed. -/
  | failed
deriving DecidableEq, Repr

namespace Source

/-! ### One read -/

/-- At most `n` bytes are handed out, as far as the allowance goes. -/
def hand (s : Source) (n : Nat) : Delivery × Source :=
  let n := match s.allowance with
    | some m => min n m
    | none => n
  let bs := s.pending.take n
  (.bytes bs,
    { s with
      pending := s.pending.drop n
      allowance := s.allowance.map fun m => m - bs.length })

/-- One read that asks for `want` bytes. -/
def read (s : Source) (want : Nat) : Delivery × Source :=
  if s.allowance = some 0 then (.failed, s)
  else
    match s.cues with
    | [] => s.hand want
    | .interrupt :: cues => (.interrupted, { s with cues := cues })
    | .short most :: cues => { s with cues := cues }.hand (min want (max most 1))

theorem cues_hand (s : Source) (n : Nat) : (s.hand n).2.cues = s.cues := rfl

theorem length_hand {s s' : Source} {n : Nat} {bs : List UInt8}
    (h : s.hand n = (.bytes bs, s')) :
    s'.pending.length + bs.length = s.pending.length ∧ bs.length ≤ n := by
  unfold hand at h
  simp only [Prod.mk.injEq, Delivery.bytes.injEq] at h
  obtain ⟨rfl, rfl⟩ := h
  simp only [List.length_take, List.length_drop]
  cases s.allowance <;> simp only <;> omega

/-- An interrupted read uses up a cue and no byte. -/
theorem read_interrupted {s s' : Source} {want : Nat} (h : s.read want = (.interrupted, s')) :
    s'.cues.length < s.cues.length ∧ s'.pending = s.pending := by
  unfold read at h
  split at h
  · simp at h
  · split at h
    · simp [hand] at h
    · rename_i hc
      simp only [Prod.mk.injEq, true_and] at h
      subst h
      simp [hc]
    · simp [hand] at h

/-- What a read hands out is what the source loses, and no more than was asked for. -/
theorem read_bytes {s s' : Source} {want : Nat} {bs : List UInt8}
    (h : s.read want = (.bytes bs, s')) :
    s'.cues.length ≤ s.cues.length ∧ s'.pending.length + bs.length = s.pending.length ∧
      bs.length ≤ want := by
  unfold read at h
  split at h
  · simp at h
  · split at h
    · have hc := cues_hand s want
      rw [h] at hc
      have hl := length_hand h
      exact ⟨Nat.le_of_eq (congrArg List.length hc), hl.1, hl.2⟩
    · simp at h
    · rename_i most cues hc
      have hq := cues_hand { s with cues := cues } (min want (max most 1))
      rw [h] at hq
      have hl := length_hand h
      refine ⟨?_, hl.1, by omega⟩
      rw [hq, hc]
      simp

/-- A read that fails takes nothing. -/
theorem read_failed {s s' : Source} {want : Nat} (h : s.read want = (.failed, s')) :
    s'.pending = s.pending := by
  unfold read at h
  split at h
  · simp only [Prod.mk.injEq, true_and] at h
    rw [h]
  · split at h <;> simp [hand] at h

/-! ### Many reads -/

/-- Reads until `want` more bytes have come, the bytes end or the device fails; `got` holds the
bytes that came before, last first. -/
def gather (s : Source) (want : Nat) (got : List UInt8) : Gathering × Source :=
  if want = 0 then (.complete got.reverse, s)
  else
    match _h : s.read want with
    -- An interruption uses up a cue, so asking again comes to an end.
    | (.interrupted, s') => gather s' want got
    | (.failed, s') => (.failed, s')
    | (.bytes [], s') => (.ended got.reverse, s')
    | (.bytes (b :: bs), s') => gather s' (want - (b :: bs).length) (bs.reverse ++ b :: got)
termination_by want + s.cues.length
decreasing_by
  · have := read_interrupted _h
    omega
  · have := read_bytes _h
    simp only [List.length_cons] at this ⊢
    omega

/-- No bytes are put back. -/
theorem length_gather_le (s : Source) (want : Nat) (got : List UInt8) :
    (s.gather want got).2.pending.length ≤ s.pending.length := by
  fun_induction gather s want got with
  | case1 => exact Nat.le_refl _
  | case2 s want got h s' hr ih =>
      rw [(read_interrupted hr).2] at ih
      exact ih
  | case3 s want got h s' hr =>
      exact Nat.le_of_eq (congrArg List.length (read_failed hr))
  | case4 s want got h s' hr =>
      have := read_bytes hr
      simp only [List.length_nil] at this
      show s'.pending.length ≤ s.pending.length
      omega
  | case5 s want got h b bs s' hr ih =>
      have := read_bytes hr
      omega

/-- All the bytes gathered are consumed. -/
theorem length_gather_of_complete {s s' : Source} {want : Nat} {got bs : List UInt8}
    (h : s.gather want got = (.complete bs, s')) :
    s'.pending.length + want = s.pending.length ∧ bs.length = got.length + want := by
  fun_induction gather s want got with
  | case1 =>
      simp only [Prod.mk.injEq, Gathering.complete.injEq] at h
      obtain ⟨rfl, rfl⟩ := h
      simp
  | case2 s want got hw s₁ hr ih =>
      rw [← (read_interrupted hr).2]
      exact ih h
  | case3 => simp at h
  | case4 => simp at h
  | case5 s want got hw b cs s₁ hr ih =>
      have hb := read_bytes hr
      have hi := ih h
      simp only [List.length_append, List.length_reverse, List.length_cons] at hi hb
      omega

/-- Exactly `n` bytes, or a fault; what came before a fault is consumed. -/
def readExact (n : Nat) : Transfer Source (List UInt8) := fun s =>
  match s.gather n [] with
  | (.complete bs, s) => (.ok bs, s)
  | (.ended _, s) => (.error (.device .endOfInput), s)
  | (.failed, s) => (.error (.device .failed), s)

end Source

end TorusRobot.Recording
