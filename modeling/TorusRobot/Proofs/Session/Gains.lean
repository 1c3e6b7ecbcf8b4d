/-
**What operations add to the counters.**

Counters are added up: every operation of a session gains something for each of them, which may be
nothing, and a run gains what its operations gain one after another.  What an operation gains is
read off its answer and off what has to make room for it, never off the counters themselves.

Main definitions:

* `TorusRobot.Tally.add`, `TorusRobot.Tally.Le` — counters taken together, and compared, one by one;
* `TorusRobot.Session.gain`, `TorusRobot.Session.gains` — what an operation adds, and what a run
  adds;
* `TorusRobot.Session.answers` — what a session answers in a run.

Main results:

* `TorusRobot.Session.tally_perform`, `TorusRobot.Session.tally_run` — **counting is adding up**;
* `TorusRobot.Session.tally_le_run` — so no counter ever decreases;
* `TorusRobot.Session.commands_run`, `TorusRobot.Session.ofStatus_run` — lines with an outcome are
  counted as commands, each under its status;
* `TorusRobot.Session.commands_eq_sum` — so the commands add up over the statuses.
-/
import TorusRobot.Proofs.Session.Operations

set_option relaxedAutoImplicit false
set_option autoImplicit false

namespace TorusRobot

/-! ### Adding and comparing -/

namespace Tally

/-- The counters of two tallies taken together. -/
def add (t d : Tally) : Tally where
  commands := t.commands + d.commands
  ok := t.ok + d.ok
  blocked := t.blocked + d.blocked
  invalid := t.invalid + d.invalid
  notPlaced := t.notPlaced + d.notPlaced
  emitted := t.emitted + d.emitted
  evicted := t.evicted + d.evicted
  expired := t.expired + d.expired
  dismissed := t.dismissed + d.dismissed
  linesEvicted := t.linesEvicted + d.linesEvicted
  resets := t.resets + d.resets

instance : Add Tally := ⟨add⟩

theorem add_eq (t d : Tally) : t + d = t.add d := rfl

theorem add_assoc (t d e : Tally) : t + d + e = t + (d + e) := by
  simp [add_eq, add, Nat.add_assoc]

theorem ofStatus_add (t d : Tally) (u : Status) :
    (t + d).ofStatus u = t.ofStatus u + d.ofStatus u := by
  cases u <;> rfl

/-- A command that is counted on one side is counted in the sum. -/
theorem countStatus_add (t d : Tally) (u : Status) :
    (t + d).countStatus u = t + d.countStatus u := by
  cases u <;> rfl

/-- No counter of the first tally is greater than that of the second. -/
structure Le (t u : Tally) : Prop where
  commands : t.commands ≤ u.commands
  ok : t.ok ≤ u.ok
  blocked : t.blocked ≤ u.blocked
  invalid : t.invalid ≤ u.invalid
  notPlaced : t.notPlaced ≤ u.notPlaced
  emitted : t.emitted ≤ u.emitted
  evicted : t.evicted ≤ u.evicted
  expired : t.expired ≤ u.expired
  dismissed : t.dismissed ≤ u.dismissed
  linesEvicted : t.linesEvicted ≤ u.linesEvicted
  resets : t.resets ≤ u.resets

instance : LE Tally := ⟨Le⟩

theorem le_add (t d : Tally) : t ≤ t + d where
  commands := Nat.le_add_right _ _
  ok := Nat.le_add_right _ _
  blocked := Nat.le_add_right _ _
  invalid := Nat.le_add_right _ _
  notPlaced := Nat.le_add_right _ _
  emitted := Nat.le_add_right _ _
  evicted := Nat.le_add_right _ _
  expired := Nat.le_add_right _ _
  dismissed := Nat.le_add_right _ _
  linesEvicted := Nat.le_add_right _ _
  resets := Nat.le_add_right _ _

end Tally

namespace Session

/-! ### One operation -/

/-- How many notices have to make room when an outcome is absorbed. -/
def crowdedOut (s : Session) (o : Outcome) (now : Nat) : Nat :=
  match o.notice with
  | some notice => (s.tray.push notice now).evicted.length
  | none => 0

/-- What absorbing an outcome adds to the counters. -/
def outcomeGain (s : Session) (o : Outcome) (now : Nat) : Tally :=
  Tally.countStatus
    { emitted := if o.notice.isSome then 1 else 0
      evicted := s.crowdedOut o now
      linesEvicted := (s.journal.append o.logLines).2 } o.status

/-- What an operation adds to the counters. -/
def gain (s : Session) : Operation → Tally
  | .submit line now =>
    match (s.submit line now).2 with
    | some o => s.outcomeGain o now
    | none => {}
  | .reset _ => { emitted := 1, resets := 1 }
  | .dismiss id => { dismissed := if (s.dismiss id).2 then 1 else 0 }
  | .expire now => { expired := (s.expire now).2.length }

theorem tally_absorb (s : Session) (o : Outcome) (now : Nat) :
    (s.absorb o now).tally = s.tally + s.outcomeGain o now := by
  unfold outcomeGain crowdedOut
  rw [← Tally.countStatus_add]
  cases h : o.notice with
  | none =>
      simp only [absorb, h]
      rfl
  | some notice =>
      simp only [absorb, h]
      cases o.status <;> rfl

/-- **Counting is adding up.** -/
theorem tally_perform (s : Session) (op : Operation) :
    (s.perform op).1.tally = s.tally + s.gain op := by
  cases op with
  | submit line now =>
      rw [perform_submit, gain]
      cases h : (s.submit line now).2 with
      | none =>
          rw [submit_of_none h]
          rfl
      | some o =>
          rw [submit_of_some h, tally_absorb]
          rfl
  | reset now =>
      -- nothing is on show any more that could have to make room
      rw [perform_reset]
      simp [reset, notify, gain, Tally.countNotice, Tally.add_eq, Tally.add]
  | dismiss id =>
      rw [perform_dismiss]
      rfl
  | expire now =>
      rw [perform_expire]
      rfl

/-! ### Runs -/

/-- What a run adds to the counters. -/
def gains (s : Session) : List Operation → Tally
  | [] => {}
  | op :: ops => s.gain op + (s.perform op).1.gains ops

theorem tally_run (s : Session) (ops : List Operation) :
    (s.run ops).tally = s.tally + s.gains ops := by
  induction ops generalizing s with
  | nil => rfl
  | cons op ops ih => rw [run_cons, ih, tally_perform, gains, Tally.add_assoc]

/-- **No counter ever decreases.** -/
theorem tally_le_run (s : Session) (ops : List Operation) : s.tally ≤ (s.run ops).tally := by
  rw [tally_run]
  exact Tally.le_add s.tally (s.gains ops)

/-- What a session answers in a run. -/
def answers (s : Session) : List Operation → List Answer
  | [] => []
  | op :: ops => (s.perform op).2 :: (s.perform op).1.answers ops

@[simp] theorem answers_cons (s : Session) (op : Operation) (ops : List Operation) :
    s.answers (op :: ops) = (s.perform op).2 :: (s.perform op).1.answers ops := rfl

/-- The outcome that an answer tells, if it tells one. -/
def Answer.outcome? : Answer → Option Outcome
  | outcome o => o
  | resetNotice _ | dismissed _ | expired _ => none

/-- The outcomes of a run, in order. -/
def outcomes (s : Session) (ops : List Operation) : List Outcome :=
  (s.answers ops).filterMap Answer.outcome?

theorem outcomes_cons (s : Session) (op : Operation) (ops : List Operation) :
    s.outcomes (op :: ops) =
      (s.perform op).2.outcome?.toList ++ (s.perform op).1.outcomes ops := by
  rw [outcomes, answers_cons]
  cases h : (s.perform op).2.outcome? with
  | none =>
      rw [List.filterMap_cons_none h]
      rfl
  | some o =>
      rw [List.filterMap_cons_some h]
      rfl

/-- Only an outcome is counted as a command. -/
theorem commands_gain (s : Session) (op : Operation) :
    (s.gain op).commands = (s.perform op).2.outcome?.toList.length := by
  cases op with
  | submit line now =>
      rw [perform_submit, gain, Answer.outcome?]
      cases h : (s.submit line now).2 with
      | none => rfl
      | some o => simp [outcomeGain]
  | reset now => rfl
  | dismiss id => rfl
  | expire now => rfl

/-- An outcome is counted under its status. -/
theorem ofStatus_gain (s : Session) (op : Operation) (u : Status) :
    (s.gain op).ofStatus u =
      (s.perform op).2.outcome?.toList.countP fun o => o.status = u := by
  cases op with
  | submit line now =>
      rw [perform_submit, gain, Answer.outcome?]
      cases h : (s.submit line now).2 with
      | none => cases u <;> rfl
      | some o =>
          simp only [outcomeGain, Tally.ofStatus_countStatus, Option.toList_some,
            List.countP_singleton, decide_eq_true_eq]
          cases u <;> simp [Tally.ofStatus]
  | reset now => cases u <;> rfl
  | dismiss id => cases u <;> rfl
  | expire now => cases u <;> rfl

/-- **The commands are the lines that had an outcome.** -/
theorem commands_run (s : Session) (ops : List Operation) :
    (s.run ops).tally.commands = s.tally.commands + (s.outcomes ops).length := by
  induction ops generalizing s with
  | nil => rfl
  | cons op ops ih =>
      rw [run_cons, ih, tally_perform, outcomes_cons, List.length_append, ← commands_gain,
        ← Nat.add_assoc]
      rfl

theorem ofStatus_run (s : Session) (ops : List Operation) (u : Status) :
    (s.run ops).tally.ofStatus u =
      s.tally.ofStatus u + (s.outcomes ops).countP fun o => o.status = u := by
  induction ops generalizing s with
  | nil => rfl
  | cons op ops ih =>
      rw [run_cons, ih, tally_perform, Tally.ofStatus_add, outcomes_cons, List.countP_append,
        ← ofStatus_gain, Nat.add_assoc]

/-- Every outcome has one of four statuses. -/
theorem length_eq_countP_status (os : List Outcome) :
    os.length = os.countP (fun o => o.status = .ok) + os.countP (fun o => o.status = .blocked) +
      os.countP (fun o => o.status = .invalid) + os.countP (fun o => o.status = .notPlaced) := by
  induction os with
  | nil => rfl
  | cons o os ih =>
      simp only [List.length_cons, List.countP_cons, ih]
      cases o.status <;> simp <;> omega

/-- The commands of a fresh session add up over the statuses. -/
theorem commands_eq_sum {s : Session} (h : s.tally = {}) (ops : List Operation) :
    (s.run ops).tally.commands =
      (s.run ops).tally.ok + (s.run ops).tally.blocked + (s.run ops).tally.invalid +
        (s.run ops).tally.notPlaced := by
  have hstatus (u : Status) :
      (s.run ops).tally.ofStatus u = (s.outcomes ops).countP fun o => o.status = u := by
    rw [ofStatus_run, h]
    cases u <;> simp [Tally.ofStatus]
  have hcommands := commands_run s ops
  rw [h, length_eq_countP_status, ← hstatus, ← hstatus, ← hstatus, ← hstatus] at hcommands
  simpa [Tally.ofStatus] using hcommands

end Session

end TorusRobot
