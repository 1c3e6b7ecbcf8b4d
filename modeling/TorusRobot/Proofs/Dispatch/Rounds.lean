/-
**What the worker does, one thing after another.**

Seen from the session, the worker does nothing but operations: it goes from round to round, and in
each it carries out the request that it took, if it took one, and then lets notices expire.  What
callers are told are the answers of the session to these operations.  A request that is a blank
line is not answered; every other request is answered by one event, and no other event looks like
an answer.

Main definitions:

* `TorusRobot.Request.operation` — the operation that a request asks for;
* `TorusRobot.Session.event?`, `TorusRobot.Session.eventsOf` — what is told of an operation, and of
  several;
* `TorusRobot.Round`, `TorusRobot.Round.operations` — a round of the worker, and what it does to the
  session;
* `TorusRobot.Session.serve` — the first part of a round;
* `TorusRobot.Event.request?` — the request that an event answers.

Main results:

* `TorusRobot.Session.handle_eq` — handling a request is carrying out its operation;
* `TorusRobot.Session.turn_eq` — a turn is a round;
* `TorusRobot.Session.answered_eventsOf` — the requests answered are those that are not blank lines.
-/
import TorusRobot.Dispatch.Worker
import TorusRobot.Proofs.Session.Operations
import TorusRobot.Proofs.Text.Blank

set_option relaxedAutoImplicit false
set_option autoImplicit false

namespace TorusRobot

open Session (Operation)

/-! ### Requests -/

namespace Request

/-- The operation that a request asks for, at time `now`. -/
def operation (now : Nat) : Request → Operation
  | submit line => .submit line now
  | reset => .reset now
  | dismiss id => .dismiss id

/-- Whether a request is a blank line. -/
def isBlank : Request → Bool
  | submit line => Text.allBlank line.toList
  | reset => false
  | dismiss _ => false

end Request

/-- The request that an event answers; expiry answers none. -/
def Event.request? : Event → Option Request
  | applied line _ _ _ => some (.submit line)
  | reset _ => some .reset
  | dismissed id _ => some (.dismiss id)
  | expired _ => none

namespace Session

/-! ### What is told -/

/-- What is told of an operation: the answer of the session, and for a line the world behind it and
the number that its notice takes. -/
def event? (s : Session) (op : Operation) : Option Event :=
  match op, (s.perform op).2 with
  | .submit line _, .outcome (some o) =>
    some (.applied line o (s.perform op).1.world
      (if o.notice.isSome then some s.tray.nextId else none))
  | .reset _, .resetNotice id => some (.reset id)
  | .dismiss id, .dismissed removed => some (.dismissed id removed)
  | .expire _, .expired ids => expiry? ids
  | _, _ => none

/-- What is told of operations done one after another. -/
def eventsOf (s : Session) : List Operation → List Event
  | [] => []
  | op :: ops => (s.event? op).toList ++ (s.perform op).1.eventsOf ops

@[simp] theorem eventsOf_nil (s : Session) : s.eventsOf [] = [] := rfl

theorem eventsOf_singleton (s : Session) (op : Operation) :
    s.eventsOf [op] = (s.event? op).toList := by
  rw [eventsOf, eventsOf_nil, List.append_nil]

theorem eventsOf_append (s : Session) (ops ops' : List Operation) :
    s.eventsOf (ops ++ ops') = s.eventsOf ops ++ (s.run ops).eventsOf ops' := by
  induction ops generalizing s with
  | nil => rfl
  | cons op ops ih =>
      rw [List.cons_append, eventsOf, eventsOf, ih, run_cons, List.append_assoc]

theorem event?_submit (s : Session) (line : String) (now : Nat) :
    s.event? (.submit line now) = (s.submit line now).2.map fun o =>
      .applied line o (s.submit line now).1.world
        (if o.notice.isSome then some s.tray.nextId else none) := by
  unfold event?
  rw [perform_submit]
  generalize s.submit line now = answered
  rcases answered with ⟨next, _ | o⟩
  · rfl
  · rfl

theorem event?_reset (s : Session) (now : Nat) :
    s.event? (.reset now) = some (.reset (s.reset now).2) := rfl

theorem event?_dismiss (s : Session) (id : Nat) :
    s.event? (.dismiss id) = some (.dismissed id (s.dismiss id).2) := rfl

theorem event?_expire (s : Session) (now : Nat) :
    s.event? (.expire now) = expiry? (s.expire now).2 := rfl

/-- The notice of the outcome just absorbed has taken the number that was next before. -/
theorem noticeId?_absorb (s : Session) (o : Outcome) (now : Nat) :
    (s.absorb o now).noticeId? o = if o.notice.isSome then some s.tray.nextId else none := by
  cases h : o.notice with
  | none => simp [noticeId?, h]
  | some notice => simp [noticeId?, absorb, notify, Tray.newest?, h]

/-- **Handling a request is carrying out its operation**, and telling of it. -/
theorem handle_eq (s : Session) (r : Request) (now : Nat) :
    s.handle r now = ((s.perform (r.operation now)).1, s.event? (r.operation now)) := by
  cases r with
  | submit line =>
      have hid (o : Outcome) (ho : (s.submit line now).2 = some o) :
          (s.submit line now).1.noticeId? o =
            if o.notice.isSome then some s.tray.nextId else none := by
        rw [submit_of_some ho, noticeId?_absorb]
      rw [Request.operation, perform_submit, event?_submit]
      unfold handle
      dsimp only
      generalize s.submit line now = answered at hid ⊢
      rcases answered with ⟨next, _ | o⟩
      · rfl
      · simp only [hid o rfl, Option.map_some]
  | reset => rfl
  | dismiss id => rfl

end Session

/-! ### Rounds -/

/-- A round of the worker: the request that it took, or none if its waiting time was over, and what
the clock said then. -/
structure Round where
  request? : Option Request
  now : Nat
deriving DecidableEq, Repr

namespace Round

/-- What is asked of the session in a round. -/
def asked (round : Round) : List Operation :=
  (round.request?.map (Request.operation round.now)).toList

/-- What a round does to the session: what is asked, and then letting notices expire. -/
def operations (round : Round) : List Operation := round.asked ++ [.expire round.now]

end Round

namespace Session

/-- The first part of a round: the request is handled, if there is one. -/
def serve (s : Session) (round : Round) : Session × Option Event :=
  match round.request? with
  | some r => s.handle r round.now
  | none => (s, none)

theorem serve_fst (s : Session) (round : Round) : (s.serve round).1 = s.run round.asked := by
  unfold serve Round.asked
  cases round.request? with
  | none => rfl
  | some r => exact congrArg Prod.fst (handle_eq s r round.now)

theorem serve_snd (s : Session) (round : Round) :
    (s.serve round).2.toList = s.eventsOf round.asked := by
  unfold serve Round.asked
  cases round.request? with
  | none => rfl
  | some r =>
      rw [Option.map_some, Option.toList_some, eventsOf_singleton]
      exact congrArg (·.2.toList) (handle_eq s r round.now)

/-- A turn is a round: serving, then letting notices expire. -/
theorem turn_eq (s : Session) (r? : Option Request) (now : Nat) :
    s.turn r? now =
      (((s.serve ⟨r?, now⟩).1.expire now).1,
        (s.serve ⟨r?, now⟩).2.toList ++ (expiry? ((s.serve ⟨r?, now⟩).1.expire now).2).toList) := by
  cases r? with
  | none => simp only [turn, serve]
  | some r => simp only [turn, serve]

/-! ### Answers -/

/-- A blank line is not answered, every other request is. -/
theorem request?_event? (s : Session) (r : Request) (now : Nat) :
    (s.event? (r.operation now)).bind Event.request? = if r.isBlank then none else some r := by
  cases r with
  | submit line =>
      rw [Request.operation, event?_submit, Request.isBlank]
      cases ho : (s.submit line now).2 with
      | none => rw [submit_eq_none_iff_allBlank.1 ho]; rfl
      | some o =>
          have hblank : Text.allBlank line.toList = false := by
            rw [Bool.eq_false_iff]
            intro h
            rw [submit_eq_none_iff_allBlank.2 h] at ho
            cases ho
          rw [hblank]
          rfl
  | reset => rfl
  | dismiss id => rfl

/-- Expiry answers no request. -/
theorem answered_expire (s : Session) (now : Nat) :
    (s.eventsOf [.expire now]).filterMap Event.request? = [] := by
  rw [eventsOf_singleton, event?_expire, expiry?]
  split <;> rfl

theorem answered_asked (s : Session) (round : Round) :
    (s.eventsOf round.asked).filterMap Event.request? =
      round.request?.toList.filter fun r => !r.isBlank := by
  unfold Round.asked
  cases round.request? with
  | none => rfl
  | some r =>
      have h := request?_event? s r round.now
      rw [Option.map_some, Option.toList_some, eventsOf_singleton, Option.toList_some]
      cases hb : r.isBlank <;> cases he : s.event? (r.operation round.now) <;> simp_all

/-- **The requests answered in a series of rounds are those that are not blank lines**, each once
and in order. -/
theorem answered_eventsOf (s : Session) (rounds : List Round) :
    (s.eventsOf (rounds.flatMap Round.operations)).filterMap Event.request? =
      (rounds.filterMap Round.request?).filter fun r => !r.isBlank := by
  induction rounds generalizing s with
  | nil => rfl
  | cons round rounds ih =>
      rw [List.flatMap_cons, eventsOf_append, List.filterMap_append, ih, Round.operations,
        eventsOf_append, List.filterMap_append, answered_expire, List.append_nil, answered_asked]
      cases h : round.request? with
      | none => rw [List.filterMap_cons_none h]; rfl
      | some r =>
          rw [List.filterMap_cons_some h, Option.toList_some, ← List.filter_append]
          rfl

end Session

end TorusRobot
