/-
**Callers and worker, step by step.**

Any number of callers put requests in the queue, collect events and close the dispatcher, while the
worker waits, takes a request or loses patience, looks at the clock, handles the request and lets
notices expire; the clock moves as it likes.  Each of these is a move of its own, and moves follow
one another in any order that the worker's progress through its round allows.

Whatever that order is, the worker does to the session what it would do alone with the accepted
requests one after another, and callers are told just that.  Of the accepted requests none is lost,
done twice or done out of turn.  Once the dispatcher is closed, the worker stops after a number of
moves known beforehand, and then all of them have been done.

Main definitions:

* `TorusRobot.Dispatcher.Stage`, `TorusRobot.Dispatcher.Moment` — how far the worker is in its
  round, and the whole system between two moves;
* `TorusRobot.Dispatcher.Move`, `TorusRobot.Dispatcher.Step`, `TorusRobot.Dispatcher.Run` — moves,
  when they are possible, and moves one after another;
* `TorusRobot.Dispatcher.Serial` — what has been done is what the worker would do alone;
* `TorusRobot.Dispatcher.Moment.toDo` — the moves that a closed dispatcher leaves to its worker.

Main results:

* `TorusRobot.Dispatcher.Serial.step`, `TorusRobot.Dispatcher.Run.serial` — every move, and every
  run, leaves it so;
* `TorusRobot.Dispatcher.Step.toDo_eq`, `TorusRobot.Dispatcher.exists_step` — after closing, every
  move of the worker leaves one less to do, and the worker is never stuck before it stops;
* `TorusRobot.Dispatcher.run_wake`, `TorusRobot.Dispatcher.run_shutdown` — waking up and shutting
  down are runs;
* `TorusRobot.Dispatcher.interleavings_are_serial` — **every interleaving is serial**.
-/
import TorusRobot.Dispatch.Dispatcher
import TorusRobot.Proofs.Dispatch.Rounds

set_option relaxedAutoImplicit false
set_option autoImplicit false

namespace TorusRobot.Dispatcher

open Session (Operation expiry?)

/-! ### The system between two moves -/

/-- How far the worker is in its round. -/
inductive Stage where
  | waiting
  /-- It has taken a request, or has waited long enough without one. -/
  | woken (request? : Option Request)
  /-- It has also looked at the clock. -/
  | ready (round : Round)
  /-- It has handled the request, and notices that are due are still on show. -/
  | clearing (now : Nat)
deriving DecidableEq, Repr

namespace Stage

/-- The request that the worker has taken and not handled. -/
def inHand : Stage → List Request
  | woken request? => request?.toList
  | ready round => round.request?.toList
  | waiting | clearing _ => []

/-- What the clock said, if the worker has looked and not handled the request. -/
def lookedAt : Stage → List Nat
  | ready round => [round.now]
  | waiting | woken _ | clearing _ => []

/-- What is still to be done to the session after a request was handled. -/
def owed : Stage → List Operation
  | clearing now => [.expire now]
  | waiting | woken _ | ready _ => []

/-- The moves left to a worker that finds an empty queue and a closed dispatcher after its round;
stopping is one of them. -/
def toDo : Stage → Nat
  | waiting => 1
  | clearing _ => 2
  | ready _ => 3
  | woken _ => 4

end Stage

/-- The whole system between two moves. -/
structure Moment where
  dispatcher : Dispatcher
  stage : Stage := .waiting
  clock : Nat
deriving DecidableEq, Repr

/-- The moves left to the worker if nothing more comes. -/
def Moment.toDo (x : Moment) : Nat :=
  if x.dispatcher.running then 4 * x.dispatcher.queue.length + x.stage.toDo else 0

namespace Moment

/-- The request of the round is handled, and its event is told. -/
def handled (x : Moment) (round : Round) : Moment :=
  { x with
    dispatcher :=
      { x.dispatcher with
        session := (x.dispatcher.session.serve round).1
        events := x.dispatcher.events ++ (x.dispatcher.session.serve round).2.toList }
    stage := .clearing round.now }

/-- The notices that are due are taken away, which ends the round. -/
def cleared (x : Moment) (now : Nat) : Moment :=
  { x with
    dispatcher :=
      { x.dispatcher with
        session := (x.dispatcher.session.expire now).1
        events := x.dispatcher.events ++ (expiry? (x.dispatcher.session.expire now).2).toList }
    stage := .waiting }

end Moment

/-! ### Moves -/

/-- One move of a caller, of the clock or of the worker. -/
inductive Move where
  | accept (r : Request)
  | refuse (r : Request) (why : Refusal)
  | close
  | collect (e : Event)
  | tick (now : Nat)
  | receive (r : Request)
  | timeOut
  | look (now : Nat)
  | handle (round : Round)
  | clear
  | stop
deriving DecidableEq, Repr

namespace Move

/-- Whether a move is one of the worker. -/
def byWorker : Move → Bool
  | receive _ | timeOut | look _ | handle _ | clear | stop => true
  | accept _ | refuse _ _ | close | collect _ | tick _ => false

/-- Whether a move is made without a caller: it is one of the worker or of the clock. -/
def background : Move → Bool
  | tick _ => true
  | m => m.byWorker

/-- The request that was accepted, if this is what was done. -/
def accepted? : Move → Option Request
  | accept r => some r
  | _ => none

/-- What the worker read off the clock. -/
def reading? : Move → Option Nat
  | look now => some now
  | _ => none

/-- The round whose request was handled. -/
def round? : Move → Option Round
  | handle round => some round
  | _ => none

/-- The event that a caller has taken. -/
def collected? : Move → Option Event
  | collect e => some e
  | _ => none

end Move

/-! ### What moves have done -/

theorem filterMap_concat {α : Type} (f : Move → Option α) (moves : List Move) (m : Move) :
    (moves ++ [m]).filterMap f = moves.filterMap f ++ (f m).toList := by
  rw [List.filterMap_append]
  cases h : f m with
  | none => rw [List.filterMap_cons_none h]; rfl
  | some a => rw [List.filterMap_cons_some h]; rfl

/-- The requests accepted, in order. -/
def accepted (moves : List Move) : List Request := moves.filterMap Move.accepted?

/-- What the worker read off the clock, in order. -/
def readings (moves : List Move) : List Nat := moves.filterMap Move.reading?

/-- The rounds of the worker, each of them counted when its request is handled. -/
def rounds (moves : List Move) : List Round := moves.filterMap Move.round?

/-- The events that callers have taken, in order. -/
def collected (moves : List Move) : List Event := moves.filterMap Move.collected?

@[simp] theorem accepted_concat (moves : List Move) (m : Move) :
    accepted (moves ++ [m]) = accepted moves ++ m.accepted?.toList :=
  filterMap_concat Move.accepted? moves m

theorem accepted_append (moves moves' : List Move) :
    accepted (moves ++ moves') = accepted moves ++ accepted moves' :=
  List.filterMap_append

theorem collected_append (moves moves' : List Move) :
    collected (moves ++ moves') = collected moves ++ collected moves' :=
  List.filterMap_append

@[simp] theorem readings_concat (moves : List Move) (m : Move) :
    readings (moves ++ [m]) = readings moves ++ m.reading?.toList :=
  filterMap_concat Move.reading? moves m

@[simp] theorem rounds_concat (moves : List Move) (m : Move) :
    rounds (moves ++ [m]) = rounds moves ++ m.round?.toList :=
  filterMap_concat Move.round? moves m

@[simp] theorem collected_concat (moves : List Move) (m : Move) :
    collected (moves ++ [m]) = collected moves ++ m.collected?.toList :=
  filterMap_concat Move.collected? moves m

/-- What a worker would do to its session that went through the rounds alone. -/
def operations (moves : List Move) : List Operation := (rounds moves).flatMap Round.operations

/-- A move that handles nothing leaves the session as it is. -/
theorem operations_concat_of_none {m : Move} (h : m.round? = none) (moves : List Move) :
    operations (moves ++ [m]) = operations moves := by
  rw [operations, rounds_concat, h, Option.toList_none, List.append_nil, operations]

theorem operations_concat_handle (moves : List Move) (round : Round) :
    operations (moves ++ [.handle round]) = operations moves ++ round.operations := by
  rw [operations, rounds_concat, List.flatMap_append, operations]
  exact congrArg _ (List.append_nil round.operations)

/-! ### When moves are possible -/

/-- What a move makes of a moment, and when it is possible. -/
inductive Step : Moment → Move → Moment → Prop where
  | accept {x : Moment} {d : Dispatcher} {r : Request} (h : x.dispatcher.send r = (.ok (), d)) :
      Step x (.accept r) { x with dispatcher := d }
  | refuse {x : Moment} {d : Dispatcher} {r : Request} {why : Refusal}
      (h : x.dispatcher.send r = (.error why, d)) :
      Step x (.refuse r why) { x with dispatcher := d }
  | close {x : Moment} : Step x .close { x with dispatcher := x.dispatcher.close }
  | collect {x : Moment} {d : Dispatcher} {e : Event} (h : x.dispatcher.take? = some (e, d)) :
      Step x (.collect e) { x with dispatcher := d }
  /-- The clock need not go forward. -/
  | tick {x : Moment} (now : Nat) : Step x (.tick now) { x with clock := now }
  | receive {x : Moment} {r : Request} {rs : List Request} (hrun : x.dispatcher.running = true)
      (hstage : x.stage = .waiting) (hqueue : x.dispatcher.queue = r :: rs) :
      Step x (.receive r)
        { x with dispatcher := { x.dispatcher with queue := rs }, stage := .woken (some r) }
  /-- A worker waits without end unless notices are on show, and whatever has come in the meantime,
  a request or the closing, comes first.  How long it waits is left open. -/
  | timeOut {x : Moment} (hrun : x.dispatcher.running = true) (hstage : x.stage = .waiting)
      (hqueue : x.dispatcher.queue = []) (haccepting : x.dispatcher.accepting = true)
      (hdeadline : x.dispatcher.session.tray.nextDeadline?.isSome) :
      Step x .timeOut { x with stage := .woken none }
  | look {x : Moment} {r? : Option Request} (hrun : x.dispatcher.running = true)
      (hstage : x.stage = .woken r?) :
      Step x (.look x.clock) { x with stage := .ready ⟨r?, x.clock⟩ }
  | handle {x : Moment} {round : Round} (hrun : x.dispatcher.running = true)
      (hstage : x.stage = .ready round) : Step x (.handle round) (x.handled round)
  | clear {x : Moment} {now : Nat} (hrun : x.dispatcher.running = true)
      (hstage : x.stage = .clearing now) : Step x .clear (x.cleared now)
  | stop {x : Moment} (hrun : x.dispatcher.running = true) (hstage : x.stage = .waiting)
      (hqueue : x.dispatcher.queue = []) (haccepting : x.dispatcher.accepting = false) :
      Step x .stop { x with dispatcher := { x.dispatcher with running := false } }

/-- Moves one after another. -/
inductive Run : Moment → List Move → Moment → Prop where
  | refl (x : Moment) : Run x [] x
  | snoc {x y z : Moment} {moves : List Move} {m : Move} (h : Run x moves y) (hm : Step y m z) :
      Run x (moves ++ [m]) z

namespace Run

theorem single {x y : Moment} {m : Move} (h : Step x m y) : Run x [m] y := .snoc (.refl x) h

theorem trans {x y z : Moment} {moves moves' : List Move} (h : Run x moves y)
    (h' : Run y moves' z) : Run x (moves ++ moves') z := by
  induction h' with
  | refl => rwa [List.append_nil]
  | snoc _ hm ih =>
      rw [← List.append_assoc]
      exact ih.snoc hm

theorem cons {x y z : Moment} {m : Move} {moves : List Move} (h : Step x m y)
    (h' : Run y moves z) : Run x (m :: moves) z :=
  (single h).trans h'

end Run

/-! ### Sending and collecting -/

theorem send_eq_ok_iff {d d' : Dispatcher} {r : Request} :
    d.send r = (.ok (), d') ↔
      d.accepting = true ∧ d.queue.length < d.capacity ∧
        d' = { d with queue := d.queue ++ [r] } := by
  unfold send
  cases ha : d.accepting with
  | false => simp
  | true => by_cases hq : d.queue.length < d.capacity <;> simp [hq, eq_comm]

theorem take?_eq_some_iff {d d' : Dispatcher} {e : Event} :
    d.take? = some (e, d') ↔ ∃ es, d.events = e :: es ∧ d' = { d with events := es } := by
  unfold take?
  cases h : d.events with
  | nil => simp
  | cons e' es =>
      constructor
      · intro hd
        obtain ⟨rfl, rfl⟩ := Prod.mk.inj (Option.some.inj hd)
        exact ⟨es, rfl, rfl⟩
      · rintro ⟨es', hes, rfl⟩
        obtain ⟨rfl, rfl⟩ := List.cons.inj hes
        rfl

/-- **A refused request changes nothing.** -/
theorem Step.refuse_eq {x y : Moment} {r : Request} {why : Refusal} (h : Step x (.refuse r why) y) :
    y = x := by
  cases h with
  | refuse h =>
      have hsame := send_refused (congrArg Prod.fst h)
      rw [congrArg Prod.snd h] at hsame
      exact congrArg (fun d => { x with dispatcher := d }) hsame

/-! ### Serial order -/

/-- The requests handled are the first ones accepted, and session and events are those of a worker
that has handled them one after another. -/
structure Serial (s : Session) (moves : List Move) (x : Moment) : Prop where
  /-- Accepted requests are handled, in hand or in the queue, in the order of acceptance. -/
  requests : accepted moves =
    (rounds moves).filterMap Round.request? ++ x.stage.inHand ++ x.dispatcher.queue
  /-- The times of the rounds are those that the worker read off the clock. -/
  times : readings moves = (rounds moves).map Round.now ++ x.stage.lookedAt
  session : x.dispatcher.session.run x.stage.owed = s.run (operations moves)
  /-- No event is lost on the way to the callers. -/
  events : collected moves ++ x.dispatcher.events ++
    x.dispatcher.session.eventsOf x.stage.owed = s.eventsOf (operations moves)
  /-- The worker stops between two rounds, and leaves nothing behind. -/
  stopped : x.dispatcher.running = false →
    x.stage = .waiting ∧ x.dispatcher.queue = [] ∧ x.dispatcher.accepting = false

namespace Serial

variable {s : Session} {moves : List Move} {x y : Moment}

/-- A dispatcher is made with nothing done. -/
theorem ofSession (s : Session) (capacity clock : Nat) :
    Serial s [] ⟨.ofSession s capacity, .waiting, clock⟩ where
  requests := rfl
  times := rfl
  session := rfl
  events := rfl
  stopped := nofun

/-- A worker that has not stopped is not concerned by what holds of one that has. -/
theorem stopped_of_running {p : Prop} (hrun : x.dispatcher.running = true) :
    x.dispatcher.running = false → p := by
  intro h
  rw [hrun] at h
  cases h

/-- What goes on in the queue and with the worker, while nothing is done to the session and no
event comes or goes. -/
theorem quiet (hs : Serial s moves x) {m : Move} (haccepted : m.accepted? = none)
    (hreading : m.reading? = none) (hround : m.round? = none) (hcollected : m.collected? = none)
    (hsession : y.dispatcher.session = x.dispatcher.session)
    (hevents : y.dispatcher.events = x.dispatcher.events)
    (hrequests : y.stage.inHand ++ y.dispatcher.queue = x.stage.inHand ++ x.dispatcher.queue)
    (hlookedAt : y.stage.lookedAt = x.stage.lookedAt) (howed : y.stage.owed = x.stage.owed)
    (hstopped : y.dispatcher.running = false →
      y.stage = .waiting ∧ y.dispatcher.queue = [] ∧ y.dispatcher.accepting = false) :
    Serial s (moves ++ [m]) y where
  requests := by
    rw [accepted_concat, rounds_concat, haccepted, hround, Option.toList_none, Option.toList_none,
      List.append_nil, List.append_nil, List.append_assoc, hrequests, ← List.append_assoc]
    exact hs.requests
  times := by
    rw [readings_concat, rounds_concat, hreading, hround, Option.toList_none, Option.toList_none,
      List.append_nil, List.append_nil, hlookedAt]
    exact hs.times
  session := by
    rw [operations_concat_of_none hround, hsession, howed]
    exact hs.session
  events := by
    rw [operations_concat_of_none hround, collected_concat, hcollected, Option.toList_none,
      List.append_nil, hsession, hevents, howed]
    exact hs.events
  stopped := hstopped

theorem accept (hs : Serial s moves x) {d : Dispatcher} {r : Request}
    (h : x.dispatcher.send r = (.ok (), d)) :
    Serial s (moves ++ [.accept r]) { x with dispatcher := d } := by
  obtain ⟨ha, -, rfl⟩ := send_eq_ok_iff.1 h
  refine ⟨?_, ?_, ?_, ?_, ?_⟩
  · rw [accepted_concat, rounds_concat, hs.requests]
    simp [Move.accepted?, Move.round?]
  · simpa [Move.reading?, Move.round?] using hs.times
  · rw [operations_concat_of_none rfl]
    exact hs.session
  · rw [operations_concat_of_none rfl, ← hs.events]
    simp [Move.collected?]
  · intro hrun
    have haccepting := (hs.stopped hrun).2.2
    rw [ha] at haccepting
    cases haccepting

theorem collect (hs : Serial s moves x) {d : Dispatcher} {e : Event}
    (h : x.dispatcher.take? = some (e, d)) :
    Serial s (moves ++ [.collect e]) { x with dispatcher := d } := by
  obtain ⟨es, hes, rfl⟩ := take?_eq_some_iff.1 h
  have hevents := hs.events
  rw [hes] at hevents
  refine ⟨?_, ?_, ?_, ?_, hs.stopped⟩
  · simpa [Move.accepted?, Move.round?] using hs.requests
  · simpa [Move.reading?, Move.round?] using hs.times
  · rw [operations_concat_of_none rfl]
    exact hs.session
  · rw [operations_concat_of_none rfl, ← hevents]
    simp [Move.collected?]

theorem look (hs : Serial s moves x) (hrun : x.dispatcher.running = true) {r? : Option Request}
    (hstage : x.stage = .woken r?) :
    Serial s (moves ++ [.look x.clock]) { x with stage := .ready ⟨r?, x.clock⟩ } := by
  obtain ⟨hrequests, htimes, hsession, hevents, -⟩ := hs
  rw [hstage] at hrequests htimes hsession hevents
  refine ⟨?_, ?_, ?_, ?_, stopped_of_running hrun⟩
  · simpa [Move.accepted?, Move.round?, Stage.inHand] using hrequests
  · rw [readings_concat, rounds_concat, htimes]
    simp [Move.reading?, Move.round?, Stage.lookedAt]
  · rw [operations_concat_of_none rfl]
    exact hsession
  · rw [operations_concat_of_none rfl, ← hevents]
    simp [Move.collected?, Stage.owed]

/-- The worker serves the first request that it has not served yet. -/
theorem handle (hs : Serial s moves x) (hrun : x.dispatcher.running = true) {round : Round}
    (hstage : x.stage = .ready round) : Serial s (moves ++ [.handle round]) (x.handled round) := by
  obtain ⟨hrequests, htimes, hsession, hevents, -⟩ := hs
  rw [hstage] at hrequests htimes hsession hevents
  rw [Stage.owed, Session.run_nil] at hsession
  rw [Stage.owed, Session.eventsOf_nil, List.append_nil] at hevents
  refine ⟨?_, ?_, ?_, ?_, stopped_of_running hrun⟩
  · rw [accepted_concat, rounds_concat, hrequests]
    cases hr : round.request? <;>
      simp [Moment.handled, Move.accepted?, Move.round?, Stage.inHand, hr]
  · rw [readings_concat, rounds_concat, htimes]
    simp [Moment.handled, Move.reading?, Move.round?, Stage.lookedAt]
  · rw [operations_concat_handle, Session.run_append, ← hsession, Round.operations,
      Session.run_append, ← Session.serve_fst]
    rfl
  · rw [operations_concat_handle, Session.eventsOf_append, ← hsession, ← hevents, Round.operations,
      Session.eventsOf_append, ← Session.serve_fst, ← Session.serve_snd]
    simp [Moment.handled, Move.collected?, Stage.owed]

/-- The worker takes away the notices that are due after the request. -/
theorem clear (hs : Serial s moves x) (hrun : x.dispatcher.running = true) {now : Nat}
    (hstage : x.stage = .clearing now) : Serial s (moves ++ [.clear]) (x.cleared now) := by
  obtain ⟨hrequests, htimes, hsession, hevents, -⟩ := hs
  rw [hstage] at hrequests htimes hsession hevents
  rw [Stage.owed, Session.eventsOf_singleton, Session.event?_expire] at hevents
  refine ⟨?_, ?_, ?_, ?_, stopped_of_running hrun⟩
  · simpa [Moment.cleared, Move.accepted?, Move.round?, Stage.inHand] using hrequests
  · simpa [Moment.cleared, Move.reading?, Move.round?, Stage.lookedAt] using htimes
  · rw [operations_concat_of_none rfl, ← hsession]
    rfl
  · rw [operations_concat_of_none rfl, ← hevents]
    simp [Moment.cleared, Move.collected?, Stage.owed]

/-- **Every move keeps to the serial order.** -/
theorem step (hs : Serial s moves x) {m : Move} (h : Step x m y) : Serial s (moves ++ [m]) y := by
  cases h with
  | accept h => exact hs.accept h
  | refuse h =>
      have hsame := (Step.refuse h).refuse_eq
      exact hs.quiet rfl rfl rfl rfl (by rw [hsame]) (by rw [hsame]) (by rw [hsame]) rfl rfl
        (by rw [hsame]; exact hs.stopped)
  | close =>
      refine hs.quiet rfl rfl rfl rfl rfl rfl rfl rfl rfl ?_
      intro hrun
      obtain ⟨hstage, hqueue, -⟩ := hs.stopped hrun
      exact ⟨hstage, hqueue, rfl⟩
  | collect h => exact hs.collect h
  | tick now => exact hs.quiet rfl rfl rfl rfl rfl rfl rfl rfl rfl hs.stopped
  | receive hrun hstage hqueue =>
      refine hs.quiet rfl rfl rfl rfl rfl rfl ?_ ?_ ?_ (stopped_of_running hrun)
      · rw [hstage, hqueue]
        rfl
      · rw [hstage]
        rfl
      · rw [hstage]
        rfl
  | timeOut hrun hstage hqueue haccepting hdeadline =>
      refine hs.quiet rfl rfl rfl rfl rfl rfl ?_ ?_ ?_ (stopped_of_running hrun)
      · rw [hstage]
        rfl
      · rw [hstage]
        rfl
      · rw [hstage]
        rfl
  | look hrun hstage => exact hs.look hrun hstage
  | handle hrun hstage => exact hs.handle hrun hstage
  | clear hrun hstage => exact hs.clear hrun hstage
  | stop hrun hstage hqueue haccepting =>
      exact hs.quiet rfl rfl rfl rfl rfl rfl rfl rfl rfl fun _ => ⟨hstage, hqueue, haccepting⟩

/-- What is owed to the session answers no request, so the requests answered by the events so far
are the requests handled, except blank lines. -/
theorem answered (hs : Serial s moves x) :
    (collected moves ++ x.dispatcher.events).filterMap Event.request? =
      ((rounds moves).filterMap Round.request?).filter fun r => !r.isBlank := by
  have howed : (x.dispatcher.session.eventsOf x.stage.owed).filterMap Event.request? = [] := by
    cases x.stage with
    | clearing now => exact Session.answered_expire _ now
    | waiting => rfl
    | woken r? => rfl
    | ready round => rfl
  have hanswered := congrArg (List.filterMap Event.request?) hs.events
  rw [List.filterMap_append, howed, List.append_nil] at hanswered
  rw [hanswered, operations, Session.answered_eventsOf]

/-- When the worker has stopped, all is done and told. -/
theorem complete (hs : Serial s moves x) (hrun : x.dispatcher.running = false) :
    accepted moves = (rounds moves).filterMap Round.request? ∧
      readings moves = (rounds moves).map Round.now ∧
      x.dispatcher.session = s.run (operations moves) ∧
      collected moves ++ x.dispatcher.events = s.eventsOf (operations moves) := by
  obtain ⟨hstage, hqueue, -⟩ := hs.stopped hrun
  obtain ⟨hrequests, htimes, hsession, hevents, -⟩ := hs
  rw [hstage] at hrequests htimes hsession hevents
  rw [hqueue, List.append_nil] at hrequests
  rw [Stage.owed, Session.eventsOf_nil, List.append_nil] at hevents
  refine ⟨?_, ?_, hsession, hevents⟩
  · rw [hrequests, Stage.inHand, List.append_nil]
  · rw [htimes, Stage.lookedAt, List.append_nil]

end Serial

/-- More moves keep to the serial order. -/
theorem Serial.run {s : Session} {x y : Moment} {moves moves' : List Move} (hx : Serial s moves x)
    (h : Run x moves' y) : Serial s (moves ++ moves') y := by
  induction h with
  | refl => rwa [List.append_nil]
  | snoc _ hm ih =>
      rw [← List.append_assoc]
      exact ih.step hm

/-- **Every run keeps to the serial order.** -/
theorem Run.serial {s : Session} {x y : Moment} {moves : List Move} (hx : Serial s [] x)
    (h : Run x moves y) : Serial s moves y := hx.run h

/-! ### Stopping -/

/-- **Once the dispatcher is closed it stays so**, and every move of the worker leaves it one less
to do, whatever callers and clock do in between. -/
theorem Step.toDo_eq {x y : Moment} {m : Move} (h : Step x m y)
    (hclosed : x.dispatcher.accepting = false) :
    y.dispatcher.accepting = false ∧ m.accepted? = none ∧
      y.toDo + (if m.byWorker then 1 else 0) = x.toDo := by
  cases h with
  | accept h =>
      have haccepting := (send_eq_ok_iff.1 h).1
      rw [hclosed] at haccepting
      cases haccepting
  | refuse h =>
      have hsame := (Step.refuse h).refuse_eq
      rw [hsame]
      exact ⟨hclosed, rfl, rfl⟩
  | close => exact ⟨rfl, rfl, rfl⟩
  | collect h =>
      obtain ⟨es, -, rfl⟩ := take?_eq_some_iff.1 h
      exact ⟨hclosed, rfl, rfl⟩
  | tick now => exact ⟨hclosed, rfl, rfl⟩
  | receive hrun hstage hqueue =>
      refine ⟨hclosed, rfl, ?_⟩
      simp [Moment.toDo, hrun, hstage, hqueue, Stage.toDo, Move.byWorker]
      omega
  | timeOut _ _ _ haccepting =>
      rw [hclosed] at haccepting
      cases haccepting
  | look hrun hstage =>
      refine ⟨hclosed, rfl, ?_⟩
      simp [Moment.toDo, hrun, hstage, Stage.toDo, Move.byWorker]
  | handle hrun hstage =>
      refine ⟨hclosed, rfl, ?_⟩
      simp [Moment.toDo, Moment.handled, hrun, hstage, Stage.toDo, Move.byWorker]
  | clear hrun hstage =>
      refine ⟨hclosed, rfl, ?_⟩
      simp [Moment.toDo, Moment.cleared, hrun, hstage, Stage.toDo, Move.byWorker]
  | stop hrun hstage hqueue haccepting =>
      refine ⟨hclosed, rfl, ?_⟩
      simp [Moment.toDo, hrun, hstage, hqueue, Stage.toDo, Move.byWorker]

/-- The moves of the worker after the closing are counted off. -/
theorem Run.toDo_eq {x y : Moment} {moves : List Move} (h : Run x moves y)
    (hclosed : x.dispatcher.accepting = false) :
    y.dispatcher.accepting = false ∧ accepted moves = [] ∧
      y.toDo + moves.countP Move.byWorker = x.toDo := by
  induction h with
  | refl => exact ⟨hclosed, rfl, rfl⟩
  | snoc _ hm ih =>
      obtain ⟨hy, haccepted, hcount⟩ := ih
      obtain ⟨hz, hnone, hstep⟩ := hm.toDo_eq hy
      refine ⟨hz, ?_, ?_⟩
      · rw [accepted_concat, haccepted, hnone]
        rfl
      · rw [List.countP_append, List.countP_singleton]
        omega

/-- A worker that has not stopped can go on, unless it waits for a request to come. -/
theorem exists_step_of_ready {x : Moment} (hrun : x.dispatcher.running = true)
    (hready : x.stage = .waiting → x.dispatcher.queue = [] → x.dispatcher.accepting = false) :
    ∃ m y, m.byWorker = true ∧ m ≠ .timeOut ∧ Step x m y := by
  cases hstage : x.stage with
  | waiting =>
      cases hqueue : x.dispatcher.queue with
      | nil => exact ⟨.stop, _, rfl, nofun, .stop hrun hstage hqueue (hready hstage hqueue)⟩
      | cons r rs => exact ⟨.receive r, _, rfl, nofun, .receive hrun hstage hqueue⟩
  | woken r? => exact ⟨.look x.clock, _, rfl, nofun, .look hrun hstage⟩
  | ready round => exact ⟨.handle round, _, rfl, nofun, .handle hrun hstage⟩
  | clearing now => exact ⟨.clear, _, rfl, nofun, .clear hrun hstage⟩

/-- A worker behind a closed dispatcher is never stuck before it stops. -/
theorem exists_step {x : Moment} (hrun : x.dispatcher.running = true)
    (hclosed : x.dispatcher.accepting = false) :
    ∃ m y, m.byWorker = true ∧ Step x m y := by
  obtain ⟨m, y, hm, -, hstep⟩ := exists_step_of_ready hrun fun _ _ => hclosed
  exact ⟨m, y, hm, hstep⟩

/-! ### Waking up and shutting down -/

/-- A turn is the rest of a round. -/
theorem run_turn {d : Dispatcher} (hrun : d.running = true) (r? : Option Request) (now : Nat) :
    Run ⟨d, .woken r?, now⟩ [.look now, .handle ⟨r?, now⟩, .clear]
      ⟨{ d with
          session := (d.session.turn r? now).1
          events := d.events ++ (d.session.turn r? now).2 }, .waiting, now⟩ := by
  rw [Session.turn_eq, ← List.append_assoc]
  exact .cons (.look hrun rfl) (.cons (.handle hrun rfl) (.cons (.clear hrun rfl) (.refl _)))

/-- **Waking up is a run**, if a worker without a request has a notice to look after. -/
theorem run_wake {d : Dispatcher} (t now : Nat)
    (hdue : d.queue = [] → d.accepting = true → d.session.tray.nextDeadline?.isSome) :
    ∃ moves, (∀ m ∈ moves, m.background = true) ∧
      Run ⟨d, .waiting, t⟩ moves ⟨d.wake now, .waiting, now⟩ := by
  cases hrun : d.running with
  | false =>
      have hwake : d.wake now = d := by simp [wake, hrun]
      rw [hwake]
      exact ⟨[.tick now], by simp [Move.background], .single (.tick now)⟩
  | true =>
      cases hqueue : d.queue with
      | cons r rs =>
          have hturn := run_turn (d := { d with queue := rs }) hrun (some r) now
          have hwake : d.wake now =
              { d with
                session := (d.session.turn (some r) now).1
                queue := rs
                events := d.events ++ (d.session.turn (some r) now).2 } := by
            simp only [wake, hrun, hqueue, if_true]
          rw [hwake]
          exact ⟨_, by simp [Move.background, Move.byWorker],
            .cons (.tick now) (.cons (.receive hrun rfl hqueue) hturn)⟩
      | nil =>
          cases haccepting : d.accepting with
          | true =>
              have hturn := run_turn hrun none now
              have hwake : d.wake now =
                  { d with
                    session := (d.session.turn none now).1
                    events := d.events ++ (d.session.turn none now).2 } := by
                simp only [wake, hrun, hqueue, haccepting, if_true]
              rw [hwake]
              exact ⟨_, by simp [Move.background, Move.byWorker], .cons (.tick now)
                (.cons (.timeOut hrun rfl hqueue haccepting (hdue hqueue haccepting)) hturn)⟩
          | false =>
              have hwake : d.wake now = { d with running := false } := by
                simp [wake, hrun, hqueue, haccepting]
              rw [hwake]
              exact ⟨_, by simp [Move.background, Move.byWorker],
                .cons (.tick now) (.single (.stop hrun rfl hqueue haccepting))⟩

/-- Waking up time and again behind a closed dispatcher is a run. -/
theorem run_work {d : Dispatcher} (hclosed : d.accepting = false) (t : Nat) (clock : Nat → Nat)
    (n : Nat) :
    ∃ moves t', (∀ m ∈ moves, m.background = true) ∧
      Run ⟨d, .waiting, t⟩ moves ⟨d.work clock n, .waiting, t'⟩ := by
  induction n generalizing d t with
  | zero => exact ⟨[], t, List.forall_mem_nil _, .refl _⟩
  | succ n ih =>
      have hdue : d.queue = [] → d.accepting = true → d.session.tray.nextDeadline?.isSome := by
        intro _ haccepting
        rw [hclosed] at haccepting
        cases haccepting
      obtain ⟨moves, hmoves, hwake⟩ := run_wake t (clock n) hdue
      have hclosed' := (hwake.toDo_eq hclosed).1
      obtain ⟨moves', t', hmoves', hwork⟩ := ih hclosed' (clock n)
      exact ⟨_, t', List.forall_mem_append.2 ⟨hmoves, hmoves'⟩, hwake.trans hwork⟩

/-- **Shutting down is a run** that begins with the closing and ends with a worker that has stopped;
the session given back is the one that the worker leaves. -/
theorem run_shutdown {d : Dispatcher} (hrun : d.running = true) (t : Nat) (clock : Nat → Nat) :
    (d.shutdown? clock).1 = some (d.shutdown? clock).2.session ∧
      (d.shutdown? clock).2.running = false ∧
        ∃ moves t', accepted (.close :: moves) = [] ∧
          Run ⟨d, .waiting, t⟩ (.close :: moves) ⟨(d.shutdown? clock).2, .waiting, t'⟩ := by
  have hshutdown : d.shutdown? clock = (some (d.finish clock).session, d.finish clock) := by
    rw [shutdown?, if_pos hrun]
  rw [hshutdown]
  refine ⟨rfl, (queue_finish clock hrun).2, ?_⟩
  obtain ⟨moves, t', -, hwork⟩ := run_work (d := d.close) rfl t clock (d.queue.length + 1)
  exact ⟨moves, t', (hwork.toDo_eq rfl).2.1, .cons .close hwork⟩

/-! ### All interleavings -/

/-- **Every interleaving of callers and worker is serial.**  After any moves of callers, clock and
worker, from a dispatcher just made for the session `s`:

* session and events are those of a worker alone that takes the accepted requests one after
  another, at the times that the worker read off the clock, and lets notices expire in every round;
* the events that answer a request, collected or not, answer the requests handled so far except
  blank lines, each once and in order;
* a request that is refused now changes nothing;
* if the worker has stopped, every accepted request has been handled and nothing is left to be done
  or told;
* if the dispatcher is closed, the worker stops after a number of moves known now, whatever else
  happens, and there is a move for it until then;
* if it is shut down while the worker waits, the session given back has handled every accepted
  request. -/
theorem interleavings_are_serial {s : Session} {capacity t : Nat} {moves : List Move} {x : Moment}
    (h : Run ⟨.ofSession s capacity, .waiting, t⟩ moves x) :
    Serial s moves x ∧
    (collected moves ++ x.dispatcher.events).filterMap Event.request? =
      ((rounds moves).filterMap Round.request?).filter (fun r => !r.isBlank) ∧
    (∀ r why y, Step x (.refuse r why) y → y = x) ∧
    (x.dispatcher.running = false →
      accepted moves = (rounds moves).filterMap Round.request? ∧
      readings moves = (rounds moves).map Round.now ∧
      x.dispatcher.session = s.run (operations moves) ∧
      collected moves ++ x.dispatcher.events = s.eventsOf (operations moves)) ∧
    (x.dispatcher.accepting = false → ∀ moves' y, Run x moves' y →
      y.toDo + moves'.countP Move.byWorker = x.toDo ∧
      (y.dispatcher.running = true → ∃ m z, m.byWorker = true ∧ Step y m z)) ∧
    (x.stage = .waiting → x.dispatcher.running = true → ∀ clock, ∃ moves' t',
      Run x (.close :: moves') ⟨(x.dispatcher.shutdown? clock).2, .waiting, t'⟩ ∧
      accepted moves = (rounds (moves ++ .close :: moves')).filterMap Round.request? ∧
      (x.dispatcher.shutdown? clock).1 =
        some (s.run (operations (moves ++ .close :: moves')))) := by
  have hstart := Serial.ofSession s capacity t
  have hs := h.serial hstart
  refine ⟨hs, hs.answered, ?_, hs.complete, ?_, ?_⟩
  · intro r why y hrefuse
    exact hrefuse.refuse_eq
  · intro hclosed moves' y hrun
    obtain ⟨hclosed', -, hcount⟩ := hrun.toDo_eq hclosed
    exact ⟨hcount, fun hrunning => exists_step hrunning hclosed'⟩
  · intro hstage hrunning clock
    obtain ⟨hgiven, hstopped, moves', t', hnone, hshutdown⟩ := run_shutdown hrunning x.clock clock
    have hx : x = ⟨x.dispatcher, .waiting, x.clock⟩ := by rw [← hstage]
    rw [← hx] at hshutdown
    obtain ⟨hrequests, -, hsession, -⟩ := ((h.trans hshutdown).serial hstart).complete hstopped
    refine ⟨moves', t', hshutdown, ?_, ?_⟩
    · -- what was accepted before the closing is all that there is
      rw [← hrequests, accepted_append, hnone, List.append_nil]
    · rw [hgiven, hsession]

/-- Two callers and a worker with a queue for one request.  A request is refused because the queue
is full and one because the dispatcher is closed; requests come while the worker is in the midst of
a round, and so does the closing; and once the worker loses patience. -/
def bustle : List Move :=
  [.accept .reset, .refuse (.dismiss 1) .full, .receive .reset, .tick 7, .look 7,
    .handle ⟨some .reset, 7⟩, .clear, .timeOut, .tick 5007, .look 5007, .handle ⟨none, 5007⟩,
    .accept (.submit " "), .clear, .collect (.reset 1), .receive (.submit " "),
    .accept (.dismiss 1), .tick 3, .look 3, .close, .refuse .reset .closed,
    .handle ⟨some (.submit " "), 3⟩, .clear, .receive (.dismiss 1), .look 3,
    .handle ⟨some (.dismiss 1), 3⟩, .collect (.expired [1]), .clear, .stop]

theorem run_bustle : ∃ x, Run ⟨.ofSession (.fresh {}) 1, .waiting, 0⟩ bustle x ∧
    x.dispatcher.running = false := by
  exact ⟨_,
    .cons (.accept rfl) <| .cons (.refuse rfl) <| .cons (.receive rfl rfl rfl) <| .cons (.tick 7) <|
    .cons (.look rfl rfl) <| .cons (.handle rfl rfl) <| .cons (.clear rfl rfl) <|
    .cons (.timeOut rfl rfl rfl rfl rfl) <| .cons (.tick 5007) <| .cons (.look rfl rfl) <|
    .cons (.handle rfl rfl) <| .cons (.accept rfl) <| .cons (.clear rfl rfl) <|
    .cons (.collect rfl) <| .cons (.receive rfl rfl rfl) <| .cons (.accept rfl) <|
    .cons (.tick 3) <| .cons (.look rfl rfl) <| .cons .close <| .cons (.refuse rfl) <|
    .cons (.handle rfl rfl) <| .cons (.clear rfl rfl) <| .cons (.receive rfl rfl rfl) <|
    .cons (.look rfl rfl) <| .cons (.handle rfl rfl) <| .cons (.collect rfl) <|
    .cons (.clear rfl rfl) <| .single (.stop rfl rfl rfl rfl), rfl⟩

/-- The worker of `TorusRobot.Dispatcher.bustle` leaves the session that it would have left alone,
and two of the three requests are answered. -/
theorem interleavings_are_serial_bustle :
    ∃ x, Run ⟨.ofSession (.fresh {}) 1, .waiting, 0⟩ bustle x ∧ x.dispatcher.running = false ∧
      accepted bustle = [.reset, .submit " ", .dismiss 1] ∧
      x.dispatcher.session = Session.run (.fresh {})
        [.reset 7, .expire 7, .expire 5007, .submit " " 3, .expire 3, .dismiss 1, .expire 3] ∧
      (collected bustle ++ x.dispatcher.events).filterMap Event.request? =
        [.reset, .dismiss 1] := by
  obtain ⟨x, hx, hstopped⟩ := run_bustle
  obtain ⟨-, hanswered, -, hcomplete, -⟩ := interleavings_are_serial hx
  obtain ⟨-, -, hsession, -⟩ := hcomplete hstopped
  refine ⟨x, hx, hstopped, rfl, hsession, ?_⟩
  rw [hanswered]
  decide

end TorusRobot.Dispatcher
