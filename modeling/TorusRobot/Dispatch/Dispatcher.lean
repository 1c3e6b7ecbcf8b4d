/-
**The dispatcher.**

A dispatcher stands between callers and the worker.  Requests wait in a queue of bounded length,
first come, first served; events wait until they are taken.  Once the dispatcher is closed it takes
no more requests, and the worker stops when the queue is empty.

Every step of a caller and of the worker is a function of its own, so that any interleaving of
callers and worker is a list of steps.

Main definitions:

* `TorusRobot.Dispatcher` — the session of the worker, the queue and the events;
* `TorusRobot.Dispatcher.send`, `TorusRobot.Dispatcher.close`, `TorusRobot.Dispatcher.take?` — the
  steps of callers;
* `TorusRobot.Dispatcher.wake` — the step of the worker;
* `TorusRobot.Dispatcher.finish`, `TorusRobot.Dispatcher.shutdown?` — closing and waiting for the
  worker.

Main results:

* `TorusRobot.Dispatcher.send_refused` — a refused request changes nothing;
* `TorusRobot.Dispatcher.queue_finish` — no request is left when the worker has stopped.
-/
import TorusRobot.Dispatch.Worker

set_option relaxedAutoImplicit false
set_option autoImplicit false

namespace TorusRobot

/-- Why a request is refused. -/
inductive Dispatcher.Refusal where
  | closed
  | full
deriving DecidableEq, Repr

/-- The wording of a refusal. -/
def Dispatcher.Refusal.message : Dispatcher.Refusal → String
  | .closed => "driver thread has shut down"
  | .full => "request channel full"

/-- A worker, the requests that wait for it and the events that wait to be taken. -/
structure Dispatcher where
  session : Session
  capacity : Nat
  /-- The requests that wait, the oldest first. -/
  queue : List Request := []
  /-- The events that wait, the oldest first. -/
  events : List Event := []
  accepting : Bool := true
  running : Bool := true
deriving DecidableEq, Repr

namespace Dispatcher

/-- The length of the queue for which none is asked. -/
def defaultCapacity : Nat := 64

/-- The greatest length of the queue. -/
def maxCapacity : Nat := 4096

/-- The length of the queue when a given one is asked for. -/
def resolveCapacity (n : Nat) : Nat := min (max n 1) maxCapacity

/-- A dispatcher for a session. -/
def ofSession (s : Session) (capacity : Nat) : Dispatcher :=
  { session := s, capacity := resolveCapacity capacity }

/-! ### Steps of callers -/

/-- A request is put in the queue, unless the dispatcher is closed or the queue is full. -/
def send (d : Dispatcher) (r : Request) : Except Refusal Unit × Dispatcher :=
  if d.accepting then
    if d.queue.length < d.capacity then (.ok (), { d with queue := d.queue ++ [r] })
    else (.error .full, d)
  else (.error .closed, d)

/-- A refused request changes nothing. -/
theorem send_refused {d : Dispatcher} {r : Request} {refusal : Refusal}
    (h : (d.send r).1 = .error refusal) : (d.send r).2 = d := by
  unfold send at h ⊢
  split
  · rename_i ha
    split
    · rename_i hq
      simp [ha, hq] at h
    · rfl
  · rfl

/-- No more requests are taken. -/
def close (d : Dispatcher) : Dispatcher := { d with accepting := false }

/-- The oldest event is taken. -/
def take? (d : Dispatcher) : Option (Event × Dispatcher) :=
  match d.events with
  | [] => none
  | e :: es => some (e, { d with events := es })

/-! ### The step of the worker -/

/-- The worker wakes up at time `now`.  It handles the oldest request; if none waits it only looks
after the notices, or stops if none can come any more. -/
def wake (d : Dispatcher) (now : Nat) : Dispatcher :=
  if d.running then
    match d.queue with
    -- What was accepted before the closing is still handled.
    | r :: rs =>
      let (s, es) := d.session.turn (some r) now
      { d with session := s, queue := rs, events := d.events ++ es }
    | [] =>
      if d.accepting then
        let (s, es) := d.session.turn none now
        { d with session := s, events := d.events ++ es }
      else { d with running := false }
  else d

/-! ### Shutting down -/

/-- The worker wakes up once for every request of a list, at times that the clock tells. -/
def work (d : Dispatcher) (clock : Nat → Nat) : Nat → Dispatcher
  | 0 => d
  | n + 1 => (d.wake (clock n)).work clock n

/-- The dispatcher is closed, and the worker handles the requests that wait and stops. -/
def finish (d : Dispatcher) (clock : Nat → Nat) : Dispatcher :=
  d.close.work clock (d.queue.length + 1)

/-- The dispatcher is shut down and its session is given back; `none` if the worker has stopped
before. -/
def shutdown? (d : Dispatcher) (clock : Nat → Nat) : Option Session × Dispatcher :=
  if d.running then
    let d := d.finish clock
    (some d.session, d)
  else (none, d)

theorem queue_work {d : Dispatcher} (clock : Nat → Nat) {n : Nat} (hr : d.running = true)
    (ha : d.accepting = false) (hn : d.queue.length = n) :
    (d.work clock (n + 1)).queue = [] ∧ (d.work clock (n + 1)).running = false := by
  induction n generalizing d with
  | zero =>
      have hq := List.length_eq_zero_iff.1 hn
      simp [work, wake, hr, ha, hq]
  | succ n ih =>
      cases hq : d.queue with
      | nil => simp [hq] at hn
      | cons r rs =>
          rw [work]
          apply ih
          · simp [wake, hr, hq]
          · simp [wake, hr, hq, ha]
          · simpa [wake, hr, hq] using hn

/-- No request is left when the worker has stopped. -/
theorem queue_finish {d : Dispatcher} (clock : Nat → Nat) (hr : d.running = true) :
    (d.finish clock).queue = [] ∧ (d.finish clock).running = false :=
  queue_work clock hr rfl rfl

end Dispatcher

end TorusRobot
