/-
**In what ways reading the frames fails.**

Where the header was read, what can still be wrong is the device, the bytes of a frame, or a status
that there is not.  That the settings are other ones is never found out by reading: it takes a
session to compare them with.

Main definitions:

* `TorusRobot.Recording.Fault.OfFrame` — what can be wrong with a frame;
* `TorusRobot.Recording.Transfer.FailsAs` — all faults of a computation are of a certain kind.

Main results:

* `TorusRobot.Recording.Transfer.FailsAs.bind` — a sequence fails as its parts do;
* `TorusRobot.Recording.Source.readFrame?_failsAs` — **reading a frame fails as frames do**;
* `TorusRobot.Recording.Reader.ofFrame_of_readAll` — so does reading all of them.
-/
import TorusRobot.Proofs.Recording.RoundTrip

set_option relaxedAutoImplicit false
set_option autoImplicit false

namespace TorusRobot.Recording

/-- What can be wrong with a frame: the device that holds it, its form, or its status. -/
inductive Fault.OfFrame : Fault → Prop where
  | device (fault : DeviceFault) : OfFrame (.device fault)
  | malformed (why : Malformation) : OfFrame (.malformed why)
  | unknownStatusTag (tag : UInt8) : OfFrame (.unknownStatusTag tag)

/-! ### Faults of a sequence -/

namespace Transfer

variable {σ α β : Type} {P : Fault → Prop}

/-- Whatever the device, the computation fails only with faults of the kind `P`. -/
def FailsAs (P : Fault → Prop) (t : Transfer σ α) : Prop :=
  ∀ s fault, (t s).1 = .error fault → P fault

theorem FailsAs.pure (a : α) : FailsAs P (Pure.pure a : Transfer σ α) := by
  intro s fault h
  cases h

theorem FailsAs.fail {fault : Fault} (h : P fault) : FailsAs P (fail fault : Transfer σ α) := by
  intro s fault' e
  cases e
  exact h

theorem FailsAs.ofExcept {e : Except Fault α} (h : ∀ fault, e = .error fault → P fault) :
    FailsAs P (ofExcept e : Transfer σ α) := by
  cases e with
  | ok a => exact FailsAs.pure a
  | error fault => exact FailsAs.fail (h fault rfl)

/-- A sequence fails as its parts do. -/
theorem FailsAs.bind {t : Transfer σ α} {f : α → Transfer σ β} (ht : FailsAs P t)
    (hf : ∀ a, FailsAs P (f a)) : FailsAs P (t >>= f) := by
  intro s fault h
  cases e : t s with
  | mk result s' =>
      cases result with
      | ok a =>
          rw [bind_of_ok e] at h
          exact hf a s' fault h
      | error first =>
          rw [bind_of_error e] at h
          obtain rfl := Except.error.inj h
          exact ht s first (congrArg Prod.fst e)

end Transfer

/-! ### Faults of a frame -/

namespace Source

open Transfer Fault

theorem readExact_failsAs (n : Nat) : FailsAs OfFrame (readExact n) := by
  intro s fault h
  unfold readExact at h
  split at h
  · cases h
  · cases h
    exact .device .endOfInput
  · cases h
    exact .device .failed

theorem readByte_failsAs : FailsAs OfFrame readByte :=
  .bind (readExact_failsAs 1) fun bs => .pure (bs.headD 0)

theorem readWord32_failsAs : FailsAs OfFrame readWord32 :=
  .bind (readExact_failsAs 4) fun _ => .pure _

theorem readWord64_failsAs : FailsAs OfFrame readWord64 :=
  .bind (readExact_failsAs 8) fun _ => .pure _

theorem ofFrame_of_checkLength {n : Nat} {fault : Fault} (h : checkLength n = .error fault) :
    OfFrame fault := by
  unfold checkLength at h
  split at h
  · cases h
    exact .malformed _
  · cases h

theorem ofFrame_of_textOf {bs : List UInt8} {fault : Fault} (h : textOf bs = .error fault) :
    OfFrame fault := by
  unfold textOf at h
  split at h
  · cases h
  · cases h
    exact .malformed _

theorem ofFrame_of_statusOfTag {tag : UInt8} {fault : Fault} (h : statusOfTag tag = .error fault) :
    OfFrame fault := by
  unfold statusOfTag at h
  split at h
  · cases h
  · cases h
    exact .unknownStatusTag tag

theorem readText_failsAs : FailsAs OfFrame readText :=
  .bind readWord32_failsAs fun _ =>
    .bind (.ofExcept fun _ => ofFrame_of_checkLength) fun _ =>
      .bind (readExact_failsAs _) fun _ => .ofExcept fun _ => ofFrame_of_textOf

theorem readAction_failsAs : FailsAs OfFrame readAction := by
  refine .bind readByte_failsAs fun tag => ?_
  split
  · exact .bind readText_failsAs fun _ => .bind readByte_failsAs fun _ =>
      .bind (.ofExcept fun _ => ofFrame_of_statusOfTag) fun _ => .pure _
  · split
    · exact .pure _
    · exact .fail (.malformed _)

theorem readSeq?_failsAs : FailsAs OfFrame readSeq? := by
  intro s fault h
  unfold readSeq? at h
  split at h
  · cases h
  · cases h
  · cases h
    exact .malformed _
  · cases h
    exact .device .failed

theorem readFrameBody_failsAs (seq : UInt64) : FailsAs OfFrame (readFrameBody seq) :=
  .bind readAction_failsAs fun _ => .bind readWord64_failsAs fun _ => .pure _

/-- **Reading a frame fails as frames do.** -/
theorem readFrame?_failsAs : FailsAs OfFrame readFrame? := by
  refine .bind readSeq?_failsAs fun seq? => ?_
  cases seq? with
  | none => exact .pure none
  | some seq => exact .bind (readFrameBody_failsAs seq) fun frame => .pure (some frame)

end Source

/-! ### Faults of all the frames -/

/-- If reading all the frames ends in a fault, it is one of a frame. -/
theorem Reader.ofFrame_of_readAll {r : Reader} {fault : Fault}
    (h : r.readAll.2.1 = .error fault) : fault.OfFrame := by
  fun_induction readAll r with
  | case1 r f r' hn fs ending last hread ih =>
      rw [hread] at ih
      exact ih h
  | case2 r r' hn => cases h
  | case3 r fault' r' hn =>
      cases h
      refine Source.readFrame?_failsAs r.source fault ?_
      rw [readFrame?_of_next hn]

end TorusRobot.Recording
