/-
**Console and worker, move by move.**

The console waits for whatever it gets hold of first, the next line or the next event.  A request is
offered to the dispatcher, and as long as the queue is full an event is handled before it is offered
again.  After the last line the console closes the dispatcher, waits for the worker to stop, handles
the events that are left and confirms the recording.  All the while the worker makes its own moves.
Each of these is a move, and moves follow one another in any order that console and worker allow.

Nothing here depends on what the lines are.  A run may be looked at as one of the dispatcher alone,
and every move leaves less to do, unless it only lets time pass.

Main definitions:

* `TorusRobot.Console.Phase`, `TorusRobot.Console.Moment` — how far the console is, and the whole
  system between two moves;
* `TorusRobot.Console.Move`, `TorusRobot.Console.Step`, `TorusRobot.Console.Run` — moves, when they
  are possible, and moves one after another;
* `TorusRobot.Console.inner` — the moves that the dispatcher knows of;
* `TorusRobot.Console.Moment.toDo` — a bound for the moves that are left.

Main results:

* `TorusRobot.Console.Run.inner` — **every run is a run of the dispatcher**;
* `TorusRobot.Console.Run.countP_le` — **no run goes on for ever**, unless the worker time and again
  wakes up without a request.
-/
import TorusRobot.Console.Basic
import TorusRobot.Proofs.Dispatch.Interleaving

set_option relaxedAutoImplicit false
set_option autoImplicit false

namespace TorusRobot

namespace Dispatcher

/-- Whether a move only lets time pass. -/
def Move.passesTime : Move → Bool
  | timeOut | tick _ => true
  | accept _ | refuse _ _ | close | collect _ => false
  | receive _ | look _ | handle _ | clear | stop => false

end Dispatcher

namespace Console

/-! ### The system between two moves -/

/-- How far the console is. -/
inductive Phase where
  /-- It takes a line or an event, whichever comes. -/
  | selecting
  /-- It has a request to pass on. -/
  | offering
  /-- The queue was full, so an event has to come before the request is offered again. -/
  | draining
  /-- No more lines are read. -/
  | leaving
  /-- The dispatcher is closed, and the worker has to stop. -/
  | joining
  /-- The worker has stopped, and the events that are left are handled. -/
  | emptying
  | ended
  | failed
deriving DecidableEq, Repr

namespace Phase

/-- The phase after an event, where the console takes one. -/
def afterEvent? : Phase → Option Phase
  | selecting => some selecting
  | draining => some offering
  | emptying => some emptying
  | offering | leaving | joining | ended | failed => none

/-- The phase after a request was refused. -/
def afterRefusal : Dispatcher.Refusal → Phase
  | .full => draining
  | .closed => failed

/-- A bound for the moves that the console has left, apart from those that lines, requests and
events bring with them. -/
def toDo : Phase → Nat
  | selecting => 4
  | offering => 13
  | draining => 12
  | leaving => 3
  | joining => 2
  | emptying => 1
  | ended => 0
  | failed => 0

end Phase

/-- The phase after a line was read. -/
def phaseAfterLine (c : Console) : Phase :=
  if c.waiting.isSome then .offering else if c.reading then .selecting else .leaving

/-- The phase to go on to, unless something went wrong with the recording. -/
def phaseUnlessFault (c : Console) (next : Phase) : Phase :=
  if c.fault.isSome then .failed else next

/-- The whole system between two moves. -/
structure Moment where
  console : Console
  /-- How far the worker is. -/
  stage : Dispatcher.Stage := .waiting
  clock : Nat
  /-- The lines that were not read yet. -/
  input : List String
  phase : Phase := .selecting
deriving DecidableEq, Repr

namespace Moment

/-- What the dispatcher knows of a moment. -/
def inner (x : Moment) : Dispatcher.Moment := ⟨x.console.dispatcher, x.stage, x.clock⟩

/-- The same moment with another dispatcher inside it. -/
def withInner (x : Moment) (y : Dispatcher.Moment) : Moment :=
  { x with
    console := { x.console with dispatcher := y.dispatcher }
    stage := y.stage
    clock := y.clock }

end Moment

/-! ### Moves -/

/-- One move of the console, of the worker or of the clock. -/
inductive Move where
  | read (line : String)
  /-- There are no more lines. -/
  | endInput
  | take (e : Event)
  | accept (r : Request)
  | refuse (r : Request) (why : Dispatcher.Refusal)
  | close
  | join
  | confirm
  /-- The worker turns out to have stopped although nobody has closed the dispatcher. -/
  | lose
  | background (m : Dispatcher.Move)
deriving DecidableEq, Repr

namespace Move

/-- The move of the dispatcher in a move, if there is one. -/
def inner : Move → List Dispatcher.Move
  | take e => [.collect e]
  | accept r => [.accept r]
  | refuse r why => [.refuse r why]
  | close => [.close]
  | background m => [m]
  | read _ | endInput | join | confirm | lose => []

/-- Whether a move only lets time pass. -/
def passesTime : Move → Bool
  | background m => m.passesTime
  | read _ | endInput | take _ | accept _ | refuse _ _ | close | join | confirm | lose => false

end Move

/-- The moves that the dispatcher knows of. -/
def inner (moves : List Move) : List Dispatcher.Move := moves.flatMap Move.inner

@[simp] theorem inner_concat (moves : List Move) (m : Move) :
    inner (moves ++ [m]) = inner moves ++ m.inner := by
  simp [inner]

/-- How often the worker wakes up without a request. -/
def timeOuts (moves : List Move) : Nat := moves.count (.background .timeOut)

/-- What a move makes of a moment, and when it is possible. -/
inductive Step : Moment → Move → Moment → Prop where
  | read {x : Moment} {line : String} {lines : List String} (hphase : x.phase = .selecting)
      (hinput : x.input = line :: lines) :
      Step x (.read line)
        { x with
          console := x.console.readLine line
          input := lines
          phase := (x.console.readLine line).phaseAfterLine }
  | endInput {x : Moment} (hphase : x.phase = .selecting) (hinput : x.input = []) :
      Step x .endInput
        { x with
          console := { x.console with reading := false }
          phase := .leaving }
  | take {x : Moment} {e : Event} {d : Dispatcher} {next : Phase}
      (hphase : x.phase.afterEvent? = some next) (h : x.console.dispatcher.take? = some (e, d)) :
      Step x (.take e)
        { x with
          console := x.console.takeEvent
          phase := x.console.takeEvent.phaseUnlessFault next }
  | accept {x : Moment} {r : Request} {d : Dispatcher} (hphase : x.phase = .offering)
      (hwaiting : x.console.waiting = some r) (h : x.console.dispatcher.send r = (.ok (), d)) :
      Step x (.accept r)
        { x with
          console := { x.console with dispatcher := d, waiting := none }
          phase := .selecting }
  | refuse {x : Moment} {r : Request} {d : Dispatcher} {why : Dispatcher.Refusal}
      (hphase : x.phase = .offering) (hwaiting : x.console.waiting = some r)
      (h : x.console.dispatcher.send r = (.error why, d)) :
      Step x (.refuse r why)
        { x with
          console := { x.console with dispatcher := d }
          phase := .afterRefusal why }
  | close {x : Moment} (hphase : x.phase = .leaving) :
      Step x .close
        { x with
          console := { x.console with dispatcher := x.console.dispatcher.close }
          phase := .joining }
  | join {x : Moment} (hphase : x.phase = .joining) (hrun : x.console.dispatcher.running = false) :
      Step x .join { x with phase := .emptying }
  | confirm {x : Moment} (hphase : x.phase = .emptying)
      (hevents : x.console.dispatcher.events = []) :
      Step x .confirm
        { x with
          console := x.console.confirm
          phase := x.console.confirm.phaseUnlessFault .ended }
  | lose {x : Moment} (hphase : x.phase = .selecting ∨ x.phase = .draining)
      (hevents : x.console.dispatcher.events = []) (hrun : x.console.dispatcher.running = false) :
      Step x .lose { x with phase := .failed }
  | background {x : Moment} {m : Dispatcher.Move} {y : Dispatcher.Moment}
      (hm : m.background = true) (h : Dispatcher.Step x.inner m y) :
      Step x (.background m) (x.withInner y)

/-- Moves one after another. -/
inductive Run : Moment → List Move → Moment → Prop where
  | refl (x : Moment) : Run x [] x
  | snoc {x y z : Moment} {moves : List Move} {m : Move} (h : Run x moves y) (hm : Step y m z) :
      Run x (moves ++ [m]) z

namespace Run

theorem single {x y : Moment} {m : Move} (h : Step x m y) : Run x [m] y := .snoc (.refl x) h

theorem trans {x y z : Moment} {moves moves' : List Move} (h : Run x moves y)
    (h' : Run y moves' z) : Run x (moves ++ moves') z := by
  induction h' with
  | refl => rwa [List.append_nil]
  | snoc _ hm ih =>
      rw [← List.append_assoc]
      exact ih.snoc hm

theorem cons {x y z : Moment} {m : Move} {moves : List Move} (h : Step x m y)
    (h' : Run y moves z) : Run x (m :: moves) z :=
  (single h).trans h'

end Run

/-! ### What is left alone -/

/-- Reading a line concerns neither the dispatcher nor the recording. -/
theorem exists_readLine_eq (c : Console) (line : String) : ∃ waiting reading printed,
    c.readLine line =
      { c with waiting := waiting, reading := reading, printed := printed } := by
  unfold readLine
  split
  · split <;> exact ⟨_, _, _, rfl⟩
  · exact ⟨_, _, _, rfl⟩

@[simp] theorem dispatcher_readLine (c : Console) (line : String) :
    (c.readLine line).dispatcher = c.dispatcher := by
  obtain ⟨_, _, _, h⟩ := exists_readLine_eq c line
  rw [h]

@[simp] theorem recorder_readLine (c : Console) (line : String) :
    (c.readLine line).recorder = c.recorder := by
  obtain ⟨_, _, _, h⟩ := exists_readLine_eq c line
  rw [h]

@[simp] theorem fault_readLine (c : Console) (line : String) :
    (c.readLine line).fault = c.fault := by
  obtain ⟨_, _, _, h⟩ := exists_readLine_eq c line
  rw [h]

/-- Handling an event concerns only what was printed and recorded. -/
theorem exists_handleEvent_eq (c : Console) (e : Event) : ∃ recorder printed fault,
    c.handleEvent e =
      { c with recorder := recorder, printed := printed, fault := fault } := by
  unfold handleEvent
  split
  · exact ⟨_, _, _, rfl⟩
  · dsimp only
    split
    · exact ⟨_, _, _, rfl⟩
    · split <;> exact ⟨_, _, _, rfl⟩

@[simp] theorem dispatcher_handleEvent (c : Console) (e : Event) :
    (c.handleEvent e).dispatcher = c.dispatcher := by
  obtain ⟨_, _, _, h⟩ := exists_handleEvent_eq c e
  rw [h]

@[simp] theorem waiting_handleEvent (c : Console) (e : Event) :
    (c.handleEvent e).waiting = c.waiting := by
  obtain ⟨_, _, _, h⟩ := exists_handleEvent_eq c e
  rw [h]

/-- Handling an event does not make the console read again. -/
@[simp] theorem reading_handleEvent (c : Console) (e : Event) :
    (c.handleEvent e).reading = c.reading := by
  obtain ⟨_, _, _, h⟩ := exists_handleEvent_eq c e
  rw [h]

theorem takeEvent_of_some {c : Console} {e : Event} {d : Dispatcher}
    (h : c.dispatcher.take? = some (e, d)) :
    c.takeEvent = { c with dispatcher := d }.handleEvent e := by
  rw [takeEvent, h]

theorem dispatcher_takeEvent {c : Console} {e : Event} {d : Dispatcher}
    (h : c.dispatcher.take? = some (e, d)) : c.takeEvent.dispatcher = d := by
  rw [takeEvent_of_some h, dispatcher_handleEvent]

@[simp] theorem dispatcher_confirm (c : Console) : c.confirm.dispatcher = c.dispatcher := by
  unfold confirm
  split
  · split <;> rfl
  · rfl

/-! ### What the dispatcher knows of it -/

/-- Every move is one of the dispatcher, or does not concern it. -/
theorem Step.inner {x y : Moment} {m : Move} (h : Step x m y) :
    Dispatcher.Run x.inner m.inner y.inner := by
  cases h with
  | @read line =>
      change Dispatcher.Run x.inner [] ⟨(x.console.readLine line).dispatcher, x.stage, x.clock⟩
      rw [dispatcher_readLine]
      exact .refl _
  | endInput => exact .refl _
  | @take e d next _ h =>
      change Dispatcher.Run x.inner [.collect e] ⟨x.console.takeEvent.dispatcher, x.stage, x.clock⟩
      rw [dispatcher_takeEvent h]
      exact .single (.collect h)
  | accept _ _ h => exact .single (.accept h)
  | refuse _ _ h => exact .single (.refuse h)
  | close => exact .single .close
  | join => exact .refl _
  | confirm =>
      change Dispatcher.Run x.inner [] ⟨x.console.confirm.dispatcher, x.stage, x.clock⟩
      rw [dispatcher_confirm]
      exact .refl _
  | lose => exact .refl _
  | background _ h => exact .single h

/-- **Every run is a run of the dispatcher.** -/
theorem Run.inner {x y : Moment} {moves : List Move} (h : Run x moves y) :
    Dispatcher.Run x.inner (inner moves) y.inner := by
  induction h with
  | refl => exact .refl _
  | snoc _ hm ih =>
      rw [inner_concat]
      exact ih.trans hm.inner

/-- What the worker does without the console is a run of both. -/
theorem run_background {x : Moment} {moves : List Dispatcher.Move} {y : Dispatcher.Moment}
    (h : Dispatcher.Run x.inner moves y) (hmoves : ∀ m ∈ moves, m.background = true) :
    Run x (moves.map .background) (x.withInner y) := by
  induction h with
  | refl => exact .refl x
  | @snoc _ _ moves m _ hm ih =>
      obtain ⟨hfirst, hlast⟩ := List.forall_mem_append.1 hmoves
      rw [List.map_append]
      exact (ih hfirst).snoc (.background (hlast m (List.mem_singleton.2 rfl)) hm)

/-! ### What is left to do -/

/-- A bound for the moves that are left to the worker and to the console after it: a request keeps
the worker busy for a round and gives two events at most, and after every event that the console
takes the request that waits may be refused again. -/
def load (x : Dispatcher.Moment) : Nat :=
  8 * x.dispatcher.queue.length + 2 * x.dispatcher.events.length + stageLoad x.stage +
    if x.dispatcher.running then 1 else 0
where
  /-- The part of it that comes from the round. -/
  stageLoad : Dispatcher.Stage → Nat
    | .waiting => 0
    | .woken r? => 5 + 2 * r?.toList.length
    | .ready round => 4 + 2 * round.request?.toList.length
    | .clearing _ => 3

/-- A bound for all moves that are left; every line may become a request. -/
def Moment.toDo (x : Moment) : Nat := 10 * x.input.length + x.phase.toDo + load x.inner

theorem length_expiry?_le (ids : List Nat) : (Session.expiry? ids).toList.length ≤ 1 := by
  unfold Session.expiry?
  split <;> simp

theorem length_serve_snd_le (s : Session) (round : Round) :
    (s.serve round).2.toList.length ≤ round.request?.toList.length := by
  unfold Session.serve
  cases round.request? with
  | none => exact Nat.le_refl _
  | some r => cases (s.handle r round.now).2 <;> simp

/-- A move of the worker leaves less to do, unless the worker wakes up without a request. -/
theorem load_le {x y : Dispatcher.Moment} {m : Dispatcher.Move} (h : Dispatcher.Step x m y)
    (hm : m.background = true) :
    load y + (if m.passesTime then 0 else 1) ≤ load x + if m = .timeOut then 5 else 0 := by
  cases h with
  | accept => cases hm
  | refuse => cases hm
  | close => cases hm
  | collect => cases hm
  | tick now => exact Nat.le_refl _
  | receive hrun hstage hqueue =>
      simp only [load, load.stageLoad, Dispatcher.Move.passesTime, hrun, hstage, hqueue,
        List.length_cons, Option.toList_some, List.length_nil, reduceCtorEq, Bool.false_eq_true,
        if_true, if_false]
      omega
  | timeOut hrun hstage =>
      simp only [load, load.stageLoad, Dispatcher.Move.passesTime, hrun, hstage, Option.toList_none,
        List.length_nil, if_true]
      omega
  | look hrun hstage =>
      simp only [load, load.stageLoad, Dispatcher.Move.passesTime, hrun, hstage, reduceCtorEq,
        Bool.false_eq_true, if_true, if_false]
      omega
  | @handle round hrun hstage =>
      have hlength := length_serve_snd_le x.dispatcher.session round
      simp only [load, load.stageLoad, Dispatcher.Moment.handled, Dispatcher.Move.passesTime, hrun,
        hstage, List.length_append, reduceCtorEq, Bool.false_eq_true, if_true, if_false]
      omega
  | @clear now hrun hstage =>
      have hlength := length_expiry?_le (x.dispatcher.session.expire now).2
      simp only [load, load.stageLoad, Dispatcher.Moment.cleared, Dispatcher.Move.passesTime, hrun,
        hstage, List.length_append, reduceCtorEq, Bool.false_eq_true, if_true, if_false]
      omega
  | stop hrun hstage =>
      simp only [load, load.stageLoad, Dispatcher.Move.passesTime, hrun, hstage, reduceCtorEq,
        Bool.false_eq_true, if_true, if_false]
      omega

theorem load_collect {x : Dispatcher.Moment} {e : Event} {d : Dispatcher}
    (h : x.dispatcher.take? = some (e, d)) : load { x with dispatcher := d } + 2 = load x := by
  obtain ⟨es, hes, rfl⟩ := Dispatcher.take?_eq_some_iff.1 h
  simp only [load, hes, List.length_cons]
  omega

theorem load_accept {x : Dispatcher.Moment} {r : Request} {d : Dispatcher}
    (h : x.dispatcher.send r = (.ok (), d)) : load { x with dispatcher := d } = load x + 8 := by
  obtain ⟨-, -, rfl⟩ := Dispatcher.send_eq_ok_iff.1 h
  simp only [load, List.length_append, List.length_singleton]
  omega

theorem toDo_phaseUnlessFault_le (c : Console) (next : Phase) :
    (c.phaseUnlessFault next).toDo ≤ next.toDo := by
  unfold phaseUnlessFault
  split
  · exact Nat.zero_le _
  · exact Nat.le_refl _

theorem toDo_phaseAfterLine_le (c : Console) : c.phaseAfterLine.toDo ≤ Phase.offering.toDo := by
  unfold phaseAfterLine
  split
  · exact Nat.le_refl _
  · split <;> decide

/-- After an event there may be one refusal more to come, but there is an event less. -/
theorem toDo_afterEvent?_le {phase next : Phase} (h : phase.afterEvent? = some next) :
    next.toDo ≤ phase.toDo + 1 := by
  cases phase with
  | selecting | draining | emptying =>
      obtain rfl := Option.some.inj h
      decide
  | offering | leaving | joining | ended | failed => cases h

/-- **Every move leaves less to do**, unless it only lets time pass. -/
theorem Step.toDo_le {x y : Moment} {m : Move} (h : Step x m y) :
    y.toDo + (if m.passesTime then 0 else 1) ≤
      x.toDo + if m = .background .timeOut then 5 else 0 := by
  cases h with
  | @read line lines hphase hinput =>
      have hnext := toDo_phaseAfterLine_le (x.console.readLine line)
      simp only [Moment.toDo, Moment.inner, Move.passesTime, Phase.toDo, hphase, hinput,
        dispatcher_readLine, List.length_cons, reduceCtorEq, Bool.false_eq_true, if_false] at hnext ⊢
      omega
  | endInput hphase hinput =>
      simp only [Moment.toDo, Moment.inner, Move.passesTime, Phase.toDo, hphase, reduceCtorEq,
        Bool.false_eq_true, if_false]
      omega
  | @take e d next hphase h =>
      have hload := load_collect (x := x.inner) h
      have hnext := toDo_afterEvent?_le hphase
      have hfault := toDo_phaseUnlessFault_le x.console.takeEvent next
      simp only [Moment.toDo, Moment.inner, Move.passesTime, dispatcher_takeEvent h, reduceCtorEq,
        Bool.false_eq_true, if_false] at hload ⊢
      omega
  | @accept r d hphase hwaiting h =>
      have hload := load_accept (x := x.inner) h
      simp only [Moment.toDo, Moment.inner, Move.passesTime, Phase.toDo, hphase, reduceCtorEq,
        Bool.false_eq_true, if_false] at hload ⊢
      omega
  | @refuse r d why hphase hwaiting h =>
      have hsame := Dispatcher.send_refused (congrArg Prod.fst h)
      rw [congrArg Prod.snd h] at hsame
      obtain rfl : d = x.console.dispatcher := hsame
      have hnext : (Phase.afterRefusal why).toDo + 1 ≤ Phase.offering.toDo := by
        cases why <;> decide
      simp only [Moment.toDo, Moment.inner, Move.passesTime, hphase, reduceCtorEq,
        Bool.false_eq_true, if_false]
      omega
  | close hphase =>
      have hload : load ⟨x.console.dispatcher.close, x.stage, x.clock⟩ = load x.inner := rfl
      simp only [Moment.toDo, Moment.inner, Move.passesTime, Phase.toDo, hphase, reduceCtorEq,
        Bool.false_eq_true, if_false] at hload ⊢
      omega
  | join hphase hrun =>
      simp only [Moment.toDo, Moment.inner, Move.passesTime, Phase.toDo, hphase, reduceCtorEq,
        Bool.false_eq_true, if_false]
      omega
  | confirm hphase hevents =>
      have hfault := toDo_phaseUnlessFault_le x.console.confirm .ended
      simp only [Moment.toDo, Moment.inner, Move.passesTime, Phase.toDo, hphase,
        dispatcher_confirm, reduceCtorEq, Bool.false_eq_true, if_false] at hfault ⊢
      omega
  | lose hphase hevents hrun =>
      have hnext : Phase.failed.toDo + 1 ≤ x.phase.toDo := by
        rcases hphase with hphase | hphase <;> rw [hphase] <;> decide
      simp only [Moment.toDo, Moment.inner, Move.passesTime, reduceCtorEq, Bool.false_eq_true,
        if_false]
      omega
  | @background m y hm h =>
      have hload := load_le h hm
      have htoDo : (x.withInner y).toDo = 10 * x.input.length + x.phase.toDo + load y := rfl
      have hpass : (Move.background m).passesTime = m.passesTime := rfl
      have htime : (if Move.background m = .background .timeOut then 5 else 0) =
          if m = .timeOut then 5 else 0 := by simp
      rw [htoDo, hpass, htime, Moment.toDo]
      omega

/-- **No run goes on for ever**, unless the worker time and again wakes up without a request: of the
moves that do not only let time pass, there are no more than were left to do, and five for every
such waking. -/
theorem Run.countP_le {x y : Moment} {moves : List Move} (h : Run x moves y) :
    moves.countP (fun m => !m.passesTime) + y.toDo ≤ x.toDo + 5 * timeOuts moves := by
  induction h with
  | refl => simp [timeOuts]
  | @snoc y z moves m _ hm ih =>
      have hstep := hm.toDo_le
      have htimeOuts : 5 * timeOuts (moves ++ [m]) =
          5 * timeOuts moves + if m = .background .timeOut then 5 else 0 := by
        rw [timeOuts, List.count_append, List.count_singleton, timeOuts]
        split <;> simp_all [Nat.mul_add]
      have hcount : List.countP (fun m => !m.passesTime) [m] = if m.passesTime then 0 else 1 := by
        cases hm : m.passesTime <;> simp [hm]
      rw [List.countP_append, htimeOuts, hcount]
      omega

end Console

end TorusRobot
