/-
**Sessions that differ at most in what they display.**

Two sessions are alike when they treat lines the same way, work on the same world and have counted
the same commands and resets.  Their journals, trays and remaining settings may differ, and the
times at which things are done in them too: the same lines and resets keep them alike, and what is
done to the notices of one does not concern the other.

Main definitions:

* `TorusRobot.Session.Alike` — equality up to display.

Main results:

* `TorusRobot.Session.Alike.submit_snd` — alike sessions give the same outcome;
* `TorusRobot.Session.Alike.submit`, `TorusRobot.Session.Alike.reset` — and stay alike;
* `TorusRobot.Session.alike_start` — fresh sessions are alike when side and treatment of lines are
  the same.
-/
import TorusRobot.Proofs.Session.Operations

set_option relaxedAutoImplicit false
set_option autoImplicit false

namespace TorusRobot.Session

/-- Two sessions differ at most in what they display. -/
structure Alike (a b : Session) : Prop where
  casePolicy : a.settings.casePolicy = b.settings.casePolicy
  /-- The worlds are the same, the stamps of their last commands included. -/
  world : a.world = b.world
  commands : a.tally.commands = b.tally.commands
  ofStatus : ∀ u, a.tally.ofStatus u = b.tally.ofStatus u
  resets : a.tally.resets = b.tally.resets

/-- Settings of the same side and the same treatment of lines give fresh sessions that are alike. -/
theorem alike_start {A B : Settings} {a b : Session} (ha : start A = .ok a) (hb : start B = .ok b)
    (hside : A.side = B.side) (hcase : A.casePolicy = B.casePolicy) : Alike a b := by
  obtain ⟨_, rfl⟩ := start_eq_ok_iff.1 ha
  obtain ⟨_, rfl⟩ := start_eq_ok_iff.1 hb
  refine ⟨hcase, ?_, rfl, fun u => rfl, rfl⟩
  simp only [fresh, hside]

namespace Alike

variable {a b : Session}

theorem commandOf (h : Alike a b) (line : String) : a.commandOf line = b.commandOf line := by
  simp only [Session.commandOf, h.casePolicy]

/-- Alike sessions give the same outcome at any times. -/
theorem submit_snd (h : Alike a b) (line : String) (t u : Nat) :
    (a.submit line t).2 = (b.submit line u).2 := by
  rw [Session.submit_snd, Session.submit_snd, h.world, h.commandOf]

theorem submit (h : Alike a b) (line : String) (t u : Nat) :
    Alike (a.submit line t).1 (b.submit line u).1 := by
  -- what is counted depends on the outcome only, and that is the same
  have hout := h.submit_snd line t u
  constructor
  · simp only [settings_submit, h.casePolicy]
  · rw [world_submit, world_submit, h.world, h.commandOf]
  · rw [commands_submit, commands_submit, h.commands, hout]
  · intro v
    rw [ofStatus_submit, ofStatus_submit, h.ofStatus, hout]
  · rw [resets_submit, resets_submit, h.resets]

theorem reset (h : Alike a b) (t u : Nat) : Alike (a.reset t).1 (b.reset u).1 := by
  constructor
  · simp only [settings_reset, h.casePolicy]
  · rw [world_reset, world_reset, h.world]
  · rw [commands_reset, commands_reset, h.commands]
  · intro v
    rw [ofStatus_reset, ofStatus_reset, h.ofStatus]
  · rw [resets_reset, resets_reset, h.resets]

/-- Notices that are dismissed in one session do not concern the other. -/
theorem dismiss_left (h : Alike a b) (id : Nat) : Alike (a.dismiss id).1 b := by
  refine ⟨h.casePolicy, h.world, h.commands, ?_, h.resets⟩
  intro u
  rw [← h.ofStatus]
  cases u <;> rfl

/-- Notices that expire in one session do not concern the other. -/
theorem expire_left (h : Alike a b) (t : Nat) : Alike (a.expire t).1 b := by
  refine ⟨h.casePolicy, h.world, h.commands, ?_, h.resets⟩
  intro u
  rw [← h.ofStatus]
  cases u <;> rfl

end Alike

end TorusRobot.Session
