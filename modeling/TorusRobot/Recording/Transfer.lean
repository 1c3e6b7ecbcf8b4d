/-
**Transfers of bytes that may fail.**

Reading from a source and writing to a sink have the same shape: an answer or a fault comes out,
and what was taken or written up to a fault stays taken or written.

Main definitions:

* `TorusRobot.Recording.Transfer` — a computation on a source or a sink that may fail;
* `TorusRobot.Recording.Transfer.fail` — the computation that does nothing but fail;
* `TorusRobot.Recording.Transfer.Keeps` — a relation holds between what was there before and after.

Main results:

* `TorusRobot.Recording.Transfer.bind_eq_ok` — both parts of a sequence succeed if the whole does;
* `TorusRobot.Recording.Transfer.Keeps.bind` — such a relation carries over to sequences.
-/
import TorusRobot.Recording.Fault

set_option relaxedAutoImplicit false
set_option autoImplicit false

namespace TorusRobot.Recording

/-- A computation on a device of type `σ`: an answer or a fault, and the device afterwards. -/
def Transfer (σ α : Type) : Type := σ → Except Fault α × σ

namespace Transfer

variable {σ α β : Type}

/-- The computation that gives an answer and leaves the device alone. -/
def pure (a : α) : Transfer σ α := fun s => (.ok a, s)

/-- The computation that fails and leaves the device alone. -/
def fail (fault : Fault) : Transfer σ α := fun s => (.error fault, s)

/-- One computation after another; a fault of the first one ends both. -/
def bind (t : Transfer σ α) (f : α → Transfer σ β) : Transfer σ β := fun s =>
  match t s with
  | (.ok a, s) => f a s
  | (.error fault, s) => (.error fault, s)

instance : Monad (Transfer σ) where
  pure := Transfer.pure
  bind := Transfer.bind

@[simp] theorem pure_apply (a : α) (s : σ) : (Pure.pure a : Transfer σ α) s = (.ok a, s) := rfl

@[simp] theorem fail_apply (fault : Fault) (s : σ) :
    (fail fault : Transfer σ α) s = (.error fault, s) := rfl

theorem bind_of_ok {t : Transfer σ α} {f : α → Transfer σ β} {s s' : σ} {a : α}
    (h : t s = (.ok a, s')) : (t >>= f) s = f a s' := by
  simp [Bind.bind, bind, h]

theorem bind_of_error {t : Transfer σ α} {f : α → Transfer σ β} {s s' : σ} {fault : Fault}
    (h : t s = (.error fault, s')) : (t >>= f) s = (.error fault, s') := by
  simp [Bind.bind, bind, h]

/-- A sequence that gave an answer is one of two computations that gave one. -/
theorem bind_eq_ok {t : Transfer σ α} {f : α → Transfer σ β} {s s' : σ} {b : β}
    (h : (t >>= f) s = (.ok b, s')) : ∃ a s₁, t s = (.ok a, s₁) ∧ f a s₁ = (.ok b, s') := by
  cases e : t s with
  | mk r s₁ =>
      cases r with
      | ok a =>
          rw [bind_of_ok e] at h
          exact ⟨a, s₁, rfl, h⟩
      | error fault =>
          rw [bind_of_error e] at h
          simp at h

instance : LawfulMonad (Transfer σ) := by
  refine LawfulMonad.mk' _ (fun t => ?_) (fun a f => rfl) (fun t f g => ?_)
  · funext s
    cases e : t s with
    | mk r s₁ => cases r <;> simp [Functor.map, bind, e, pure]
  · funext s
    cases e : t s with
    | mk r s₁ =>
        cases r with
        | ok a => simp [Bind.bind, bind, e]
        | error fault => simp [Bind.bind, bind, e]

/-! ### What a transfer keeps -/

/-- The device before and the device after always stand in the relation `R`. -/
def Keeps (R : σ → σ → Prop) (t : Transfer σ α) : Prop := ∀ s, R s (t s).2

theorem Keeps.pure {R : σ → σ → Prop} (refl : ∀ s, R s s) (a : α) :
    Keeps R (Pure.pure a : Transfer σ α) := fun s => refl s

theorem Keeps.fail {R : σ → σ → Prop} (refl : ∀ s, R s s) (fault : Fault) :
    Keeps R (fail fault : Transfer σ α) := fun s => refl s

/-- A transitive relation carries over to sequences. -/
theorem Keeps.bind {R : σ → σ → Prop} (trans : ∀ {a b c}, R a b → R b c → R a c)
    {t : Transfer σ α} {f : α → Transfer σ β} (ht : Keeps R t) (hf : ∀ a, Keeps R (f a)) :
    Keeps R (t >>= f) := by
  intro s
  have h := ht s
  cases e : t s with
  | mk r s' =>
      rw [e] at h
      cases r with
      | ok a =>
          rw [bind_of_ok e]
          exact trans h (hf a s')
      | error fault =>
          rw [bind_of_error e]
          exact h

end Transfer

end TorusRobot.Recording
