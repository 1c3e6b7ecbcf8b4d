/-
**What the console passes on.**

The requests of the lines up to the end, in their order, are those that were accepted, then the one
that waits, then those of the lines that were not read yet.  Every move keeps it so, whether or not
the session is recorded, as long as nothing goes wrong with the recording.

The console gets to its end whatever happens: there always is a move that does not only let time
pass.  In particular, while the console waits for an event before it offers its request again, the
worker has a request that will give one.

Main definitions:

* `TorusRobot.Console.requestsOf` — the requests of lines;
* `TorusRobot.Console.Busy` — there is an event, or a request that will give one;
* `TorusRobot.Console.Moment.InPhase` — what holds in each phase;
* `TorusRobot.Console.Steady` — what holds between any two moves.

Main results:

* `TorusRobot.Console.Step.fault_eq_none` — what went wrong with a recording stays wrong;
* `TorusRobot.Console.Steady.step`, `TorusRobot.Console.Run.steady` — **every move, and every run,
  keeps it so**;
* `TorusRobot.Console.Steady.exists_step` — **the console is never stuck before its end**.
-/
import TorusRobot.Proofs.Console.Moves

set_option relaxedAutoImplicit false
set_option autoImplicit false

namespace TorusRobot

namespace Console

open Recording
open Dispatcher (accepted collected operations rounds)

/-! ### The requests of lines -/

/-- The requests of lines, up to the one that ends the input. -/
def requestsOf : List String → List Request
  | [] => []
  | line :: lines =>
    match Input.ofLine line with
    | .request r => r :: requestsOf lines
    | .skip | .rejected _ => requestsOf lines
    | .quit => []

theorem isBlank_of_ofWords {line : String} {ws : List String} {r : Request}
    (h : Input.ofWords line ws = .request r) : r.isBlank = false := by
  unfold Input.ofWords at h
  split at h
  · obtain rfl := Input.request.inj h
    rfl
  · cases h
  · split at h
    · obtain rfl := Input.request.inj h
      rfl
    · cases h
  · cases h

/-- No request is a blank line. -/
theorem isBlank_of_ofLine {line : String} {r : Request} (h : Input.ofLine line = .request r) :
    r.isBlank = false := by
  unfold Input.ofLine at h
  split at h
  · cases h
  · exact isBlank_of_ofWords h
  · rename_i htrim _
    obtain rfl := Input.request.inj h
    rw [Request.isBlank, Bool.eq_false_iff]
    exact fun hblank => htrim (Text.trim_eq_nil_iff.2 hblank)

theorem isBlank_of_mem_requestsOf {lines : List String} :
    ∀ r ∈ requestsOf lines, r.isBlank = false := by
  fun_induction requestsOf lines with
  | case1 => exact List.forall_mem_nil _
  | case2 line lines r hline ih => exact List.forall_mem_cons.2 ⟨isBlank_of_ofLine hline, ih⟩
  | case3 line lines hline ih => exact ih
  | case4 line lines reason hline ih => exact ih
  | case5 line lines hline => exact List.forall_mem_nil _

/-! ### One line -/

/-- A console that waits for a line reads it. -/
theorem readLine_eq {c : Console} (hwaiting : c.waiting = none) (hreading : c.reading = true)
    (hfault : c.fault = none) (line : String) :
    c.readLine line =
      match Input.ofLine line with
      | .request r => { c with waiting := some r }
      | .skip => c
      | .quit => { c with reading := false }
      | .rejected reason => c.print [reason] := by
  unfold readLine
  cases Input.ofLine line <;> simp [hwaiting, hreading, hfault]

/-! ### The worker owes an event -/

/-- There is an event, or a request that will give one. -/
def Busy (x : Dispatcher.Moment) : Prop :=
  x.dispatcher.events ≠ [] ∨ x.stage.inHand ++ x.dispatcher.queue ≠ []

/-- A request that is no blank line is answered by one event, whatever the session. -/
theorem exists_handle_eq_some (s : Session) {r : Request} (hblank : r.isBlank = false) (now : Nat) :
    ∃ e, (s.handle r now).2 = some e ∧ e.request? = some r := by
  have hanswer := Session.request?_event? s r now
  rw [hblank, if_neg Bool.false_ne_true, Option.bind_eq_some_iff] at hanswer
  obtain ⟨e, he, hrequest⟩ := hanswer
  refine ⟨e, ?_, hrequest⟩
  rw [Session.handle_eq]
  exact he

theorem serve_snd_ne_nil (s : Session) {round : Round} {r : Request}
    (hr : round.request? = some r) (hblank : r.isBlank = false) :
    (s.serve round).2.toList ≠ [] := by
  obtain ⟨e, he, -⟩ := exists_handle_eq_some s hblank round.now
  simp [Session.serve, hr, he]

/-- The worker goes on owing an event until there is one. -/
theorem Busy.step {x y : Dispatcher.Moment} {m : Dispatcher.Move} (hx : Busy x)
    (h : Dispatcher.Step x m y) (hm : m.background = true)
    (hblank : ∀ r ∈ x.stage.inHand, r.isBlank = false) : Busy y := by
  cases h with
  | accept => cases hm
  | refuse => cases hm
  | close => cases hm
  | collect => cases hm
  | tick now => exact hx
  | receive => exact .inr (by simp [Dispatcher.Stage.inHand])
  | timeOut _ hstage hqueue =>
      rw [Busy, hstage, hqueue] at hx
      exact .inl (hx.resolve_right fun hne => hne rfl)
  | look _ hstage =>
      rw [Busy, hstage] at hx
      exact hx
  | @handle round _ hstage =>
      rw [Busy, hstage] at hx
      rw [hstage] at hblank
      cases hr : round.request? with
      | none =>
          -- there was no request in hand, so one waits in the queue
          rw [Dispatcher.Stage.inHand, hr] at hx
          exact hx.imp_left fun he => List.append_ne_nil_of_left_ne_nil he _
      | some r =>
          have hr' : r.isBlank = false := hblank r (by simp [Dispatcher.Stage.inHand, hr])
          have hanswer := serve_snd_ne_nil x.dispatcher.session hr hr'
          exact .inl (List.append_ne_nil_of_right_ne_nil _ hanswer)
  | clear _ hstage =>
      rw [Busy, hstage] at hx
      exact hx.imp_left fun he => List.append_ne_nil_of_left_ne_nil he _
  | stop _ hstage hqueue =>
      rw [Busy, hstage, hqueue] at hx
      exact .inl (hx.resolve_right fun hne => hne rfl)

/-- A worker that owes an event does not wait for a request to come. -/
theorem Busy.ready {x : Dispatcher.Moment} (hx : Busy x) (hevents : x.dispatcher.events = [])
    (hstage : x.stage = .waiting) (hqueue : x.dispatcher.queue = []) :
    x.dispatcher.accepting = false := by
  have hrequest := hx.resolve_left fun hne => hne hevents
  rw [hstage, hqueue] at hrequest
  exact absurd rfl hrequest

/-- What the worker leaves alone. -/
theorem accepting_of_background {x y : Dispatcher.Moment} {m : Dispatcher.Move}
    (h : Dispatcher.Step x m y) (hm : m.background = true) :
    y.dispatcher.accepting = x.dispatcher.accepting ∧
      y.dispatcher.capacity = x.dispatcher.capacity ∧
      (x.dispatcher.running = false → y.dispatcher = x.dispatcher) ∧
      accepted [m] = [] ∧ collected [m] = [] := by
  have hstopped (hrun : x.dispatcher.running = true) :
      x.dispatcher.running = false → y.dispatcher = x.dispatcher := by
    intro hfalse
    rw [hrun] at hfalse
    cases hfalse
  cases h with
  | accept => cases hm
  | refuse => cases hm
  | close => cases hm
  | collect => cases hm
  | tick now => exact ⟨rfl, rfl, fun _ => rfl, rfl, rfl⟩
  | receive hrun => exact ⟨rfl, rfl, hstopped hrun, rfl, rfl⟩
  | timeOut hrun => exact ⟨rfl, rfl, hstopped hrun, rfl, rfl⟩
  | look hrun => exact ⟨rfl, rfl, hstopped hrun, rfl, rfl⟩
  | handle hrun => exact ⟨rfl, rfl, hstopped hrun, rfl, rfl⟩
  | clear hrun => exact ⟨rfl, rfl, hstopped hrun, rfl, rfl⟩
  | stop hrun => exact ⟨rfl, rfl, hstopped hrun, rfl, rfl⟩

/-- A worker that is running can go on, unless it waits for a request to come. -/
theorem exists_background {x : Moment} (hrun : x.console.dispatcher.running = true)
    (hready : x.stage = .waiting → x.console.dispatcher.queue = [] →
      x.console.dispatcher.accepting = false) :
    ∃ m y, m.passesTime = false ∧ Step x m y := by
  obtain ⟨m, y, hm, hne, hstep⟩ := Dispatcher.exists_step_of_ready (x := x.inner) hrun hready
  have hbackground : m.background = true ∧ m.passesTime = false := by
    cases m <;> simp_all [Dispatcher.Move.byWorker, Dispatcher.Move.background,
      Dispatcher.Move.passesTime]
  exact ⟨.background m, _, hbackground.2, .background hbackground.1 hstep⟩

/-- An event can be taken in the phases for it. -/
theorem exists_take {x : Moment} {next : Phase} {e : Event} {es : List Event}
    (hphase : x.phase.afterEvent? = some next) (hevents : x.console.dispatcher.events = e :: es) :
    ∃ m y, m.passesTime = false ∧ Step x m y :=
  ⟨_, _, rfl, .take hphase (Dispatcher.take?_eq_some_iff.2 ⟨es, hevents, rfl⟩)⟩

/-! ### Between two moves -/

/-- Whether lines are read. -/
def Phase.reads : Phase → Bool
  | selecting | offering | draining => true
  | leaving | joining | emptying | ended | failed => false

theorem Phase.reads_afterEvent? {phase next : Phase} (h : phase.afterEvent? = some next) :
    next.reads = phase.reads := by
  cases phase with
  | selecting | draining | emptying =>
      obtain rfl := Option.some.inj h
      rfl
  | offering | leaving | joining | ended | failed => cases h

namespace Moment

/-- The requests of the lines that will still be read. -/
def ahead (x : Moment) : List Request := if x.phase.reads then requestsOf x.input else []

/-- What holds in each phase. -/
def InPhase (x : Moment) : Prop :=
  match x.phase with
  | .selecting =>
    x.console.waiting = none ∧ x.console.reading = true ∧ x.console.dispatcher.accepting = true
  | .offering =>
    x.console.waiting.isSome ∧ x.console.reading = true ∧ x.console.dispatcher.accepting = true
  | .draining =>
    x.console.waiting.isSome ∧ x.console.reading = true ∧ x.console.dispatcher.accepting = true ∧
      Busy x.inner
  | .leaving => x.console.waiting = none ∧ x.console.dispatcher.accepting = true
  | .joining => x.console.waiting = none ∧ x.console.dispatcher.accepting = false
  | .emptying => x.console.waiting = none ∧ x.console.dispatcher.running = false
  | .ended =>
    x.console.waiting = none ∧ x.console.dispatcher.running = false ∧
      x.console.dispatcher.events = []
  | .failed => False

/-- After an event the console goes on as it was, or offers its request again. -/
theorem InPhase.afterEvent {x y : Moment} (h : x.InPhase)
    (hphase : x.phase.afterEvent? = some y.phase)
    (hwaiting : y.console.waiting = x.console.waiting)
    (hreading : y.console.reading = x.console.reading)
    (haccepting : y.console.dispatcher.accepting = x.console.dispatcher.accepting)
    (hrunning : y.console.dispatcher.running = x.console.dispatcher.running) : y.InPhase := by
  unfold InPhase at h ⊢
  rw [hwaiting, hreading, haccepting, hrunning]
  cases hp : x.phase with
  | selecting =>
      rw [hp] at h hphase
      rw [← Option.some.inj hphase]
      exact h
  | draining =>
      rw [hp] at h hphase
      rw [← Option.some.inj hphase]
      exact ⟨h.1, h.2.1, h.2.2.1⟩
  | emptying =>
      rw [hp] at h hphase
      rw [← Option.some.inj hphase]
      exact h
  | offering | leaving | joining | ended | failed =>
      rw [hp] at hphase
      cases hphase

/-- What the worker does keeps it so. -/
theorem InPhase.withInner {x : Moment} {m : Dispatcher.Move} {y : Dispatcher.Moment}
    (h : x.InPhase) (hm : m.background = true) (hstep : Dispatcher.Step x.inner m y)
    (hblank : ∀ r ∈ x.stage.inHand, r.isBlank = false) : (x.withInner y).InPhase := by
  obtain ⟨haccepting, -, hstopped, -⟩ := accepting_of_background hstep hm
  have haccepting' : (x.withInner y).console.dispatcher.accepting =
      x.console.dispatcher.accepting := haccepting
  have hphase : (x.withInner y).phase = x.phase := rfl
  have hwaiting : (x.withInner y).console.waiting = x.console.waiting := rfl
  have hreading : (x.withInner y).console.reading = x.console.reading := rfl
  unfold InPhase at h ⊢
  rw [hphase, hwaiting, hreading, haccepting']
  cases hp : x.phase with
  | selecting | offering | leaving | joining =>
      rw [hp] at h
      exact h
  | draining =>
      rw [hp] at h
      obtain ⟨hw, hr, ha, hbusy⟩ := h
      exact ⟨hw, hr, ha, hbusy.step hstep hm hblank⟩
  | emptying =>
      rw [hp] at h
      have hsame : (x.withInner y).console.dispatcher = x.console.dispatcher := hstopped h.2
      rw [hsame]
      exact h
  | ended =>
      rw [hp] at h
      have hsame : (x.withInner y).console.dispatcher = x.console.dispatcher := hstopped h.2.1
      rw [hsame]
      exact h
  | failed =>
      rw [hp] at h
      exact h

end Moment

/-! ### Faults -/

theorem fault_of_handleEvent {c : Console} {e : Event} (h : (c.handleEvent e).fault = none) :
    c.fault = none := by
  unfold handleEvent at h
  split at h
  · exact h
  · rename_i hfault
    simpa using hfault

/-- Confirming what was recorded changes nothing, unless it fails. -/
theorem confirm_of_fault {c : Console} (h : c.confirm.fault = none) : c.confirm = c := by
  obtain ⟨dispatcher, recorder, waiting, reading, printed, fault⟩ := c
  cases fault with
  | some fault => rfl
  | none =>
      cases recorder with
      | none => rfl
      | some w =>
          cases hflush : w.sink.flushFails with
          | false => simp [confirm, Writer.flush, Sink.flush, hflush]
          | true => simp [confirm, Writer.flush, Sink.flush, hflush] at h

/-- **What went wrong with a recording stays wrong.** -/
theorem Step.fault_eq_none {x y : Moment} {m : Move} (h : Step x m y)
    (hy : y.console.fault = none) : x.console.fault = none := by
  cases h with
  | read hphase hinput =>
      dsimp only at hy
      rwa [fault_readLine] at hy
  | take hphase htake =>
      dsimp only at hy
      rw [takeEvent_of_some htake] at hy
      have hbefore := fault_of_handleEvent hy
      exact hbefore
  | confirm hphase hevents =>
      dsimp only at hy
      rwa [confirm_of_fault hy] at hy
  | endInput | accept | refuse | close | join | lose | background => exact hy

/-- Where nothing went wrong, the console goes on. -/
theorem phaseUnlessFault_of_none {c : Console} (h : c.fault = none) (next : Phase) :
    c.phaseUnlessFault next = next := by
  rw [phaseUnlessFault, h, Option.isSome_none, if_neg Bool.false_ne_true]

/-! ### What holds between any two moves -/

/-- What holds between any two moves, if the console has started with the session `s` and the lines
are these. -/
structure Steady (s : Session) (lines : List String) (moves : List Move) (x : Moment) : Prop where
  serial : Dispatcher.Serial s (inner moves) x.inner
  /-- No request is lost, and none comes out of turn. -/
  requests : accepted (inner moves) ++ (x.console.waiting.toList ++ x.ahead) = requestsOf lines
  fault : x.console.fault = none
  capacity : 0 < x.console.dispatcher.capacity
  inPhase : x.InPhase

namespace Steady

variable {s : Session} {lines : List String} {moves : List Move} {x y : Moment}

/-- The accepted requests are among those of the lines. -/
theorem mem_requestsOf (h : Steady s lines moves x) {r : Request}
    (hr : r ∈ accepted (inner moves)) : r ∈ requestsOf lines := by
  rw [← h.requests]
  exact List.mem_append_left _ hr

/-- What the worker has in hand or in the queue was accepted. -/
theorem mem_accepted (h : Steady s lines moves x) {r : Request}
    (hr : r ∈ x.stage.inHand ++ x.console.dispatcher.queue) : r ∈ accepted (inner moves) := by
  rw [h.serial.requests, List.append_assoc]
  exact List.mem_append_right _ hr

/-- The requests handled were accepted too. -/
theorem mem_requestsOf_of_handled (h : Steady s lines moves x) {r : Request}
    (hr : r ∈ (rounds (inner moves)).filterMap Round.request?) : r ∈ requestsOf lines := by
  apply h.mem_requestsOf
  rw [h.serial.requests, List.append_assoc]
  exact List.mem_append_left _ hr

theorem isBlank_of_mem (h : Steady s lines moves x) :
    ∀ r ∈ x.stage.inHand ++ x.console.dispatcher.queue, r.isBlank = false := by
  intro r hr
  exact isBlank_of_mem_requestsOf r (h.mem_requestsOf (h.mem_accepted hr))

/-- The settings of the session never change. -/
theorem settings (h : Steady s lines moves x) :
    x.console.dispatcher.session.settings = s.settings := by
  have hsession := congrArg Session.settings h.serial.session
  rwa [Session.settings_run, Session.settings_run] at hsession

/-- A worker behind an open dispatcher is running. -/
theorem running_of_accepting (h : Steady s lines moves x)
    (haccepting : x.console.dispatcher.accepting = true) :
    x.console.dispatcher.running = true := by
  cases hrun : x.console.dispatcher.running with
  | true => rfl
  | false =>
      obtain ⟨-, -, hclosed⟩ := h.serial.stopped hrun
      have hclosed' : x.console.dispatcher.accepting = false := hclosed
      rw [haccepting] at hclosed'
      cases hclosed'

/-! ### One move -/

/-- Moves that bring no request. -/
theorem quiet (h : Steady s lines moves x) {m : Move} (hm : Step x m y)
    (haccepted : accepted m.inner = [])
    (hrequests : y.console.waiting.toList ++ y.ahead = x.console.waiting.toList ++ x.ahead)
    (hfault : y.console.fault = none)
    (hcapacity : y.console.dispatcher.capacity = x.console.dispatcher.capacity)
    (hphase : y.InPhase) : Steady s lines (moves ++ [m]) y where
  serial := by
    rw [inner_concat]
    exact h.serial.run hm.inner
  requests := by
    rw [inner_concat, Dispatcher.accepted_append, haccepted, List.append_nil, hrequests]
    exact h.requests
  fault := hfault
  capacity := by
    rw [hcapacity]
    exact h.capacity
  inPhase := hphase

/-- A line is read. -/
theorem read (h : Steady s lines moves x) {line : String} {rest : List String}
    (hphase : x.phase = .selecting) (hinput : x.input = line :: rest) :
    Steady s lines (moves ++ [.read line])
      { x with
        console := x.console.readLine line
        input := rest
        phase := (x.console.readLine line).phaseAfterLine } := by
  have hin := h.inPhase
  rw [Moment.InPhase, hphase] at hin
  obtain ⟨hwaiting, hreading, haccepting⟩ := hin
  have hahead : x.ahead = requestsOf (line :: rest) := by
    rw [Moment.ahead, hphase, hinput]
    rfl
  have hstep := Step.read hphase hinput
  rw [readLine_eq hwaiting hreading h.fault] at hstep ⊢
  rw [requestsOf] at hahead
  cases hline : Input.ofLine line with
  | request r =>
      rw [hline] at hstep hahead
      refine h.quiet hstep rfl ?_ h.fault rfl ⟨rfl, hreading, haccepting⟩
      rw [hahead, hwaiting]
      rfl
  | skip =>
      rw [hline] at hstep hahead
      have hnext : x.console.phaseAfterLine = .selecting := by
        simp [phaseAfterLine, hwaiting, hreading]
      dsimp only at hstep ⊢
      rw [hnext] at hstep ⊢
      refine h.quiet hstep rfl ?_ h.fault rfl ⟨hwaiting, hreading, haccepting⟩
      rw [hahead]
      rfl
  | rejected reason =>
      rw [hline] at hstep hahead
      have hnext : (x.console.print [reason]).phaseAfterLine = .selecting := by
        simp [phaseAfterLine, print, hwaiting, hreading]
      rw [hnext] at hstep ⊢
      refine h.quiet hstep rfl ?_ h.fault rfl ⟨hwaiting, hreading, haccepting⟩
      rw [hahead]
      rfl
  | quit =>
      rw [hline] at hstep hahead
      have hnext : ({ x.console with reading := false } : Console).phaseAfterLine = .leaving := by
        simp [phaseAfterLine, hwaiting]
      rw [hnext] at hstep ⊢
      refine h.quiet hstep rfl ?_ h.fault rfl ⟨hwaiting, haccepting⟩
      rw [hahead]
      rfl

/-- There are no more lines. -/
theorem endInput (h : Steady s lines moves x) (hphase : x.phase = .selecting)
    (hinput : x.input = []) :
    Steady s lines (moves ++ [.endInput])
      { x with
        console := { x.console with reading := false }
        phase := .leaving } := by
  have hin := h.inPhase
  rw [Moment.InPhase, hphase] at hin
  obtain ⟨hwaiting, hreading, haccepting⟩ := hin
  refine h.quiet (.endInput hphase hinput) rfl ?_ h.fault rfl ⟨hwaiting, haccepting⟩
  rw [Moment.ahead, Moment.ahead, hphase, hinput]
  rfl

/-- A request is accepted. -/
theorem accept (h : Steady s lines moves x) {r : Request} {d : Dispatcher}
    (hphase : x.phase = .offering) (hwaiting : x.console.waiting = some r)
    (hsend : x.console.dispatcher.send r = (.ok (), d)) :
    Steady s lines (moves ++ [.accept r])
      { x with
        console := { x.console with dispatcher := d, waiting := none }
        phase := .selecting } := by
  have hstep := Step.accept hphase hwaiting hsend
  have hin := h.inPhase
  rw [Moment.InPhase, hphase] at hin
  obtain ⟨-, hreading, haccepting⟩ := hin
  obtain ⟨-, -, rfl⟩ := Dispatcher.send_eq_ok_iff.1 hsend
  refine ⟨?_, ?_, h.fault, h.capacity, rfl, hreading, haccepting⟩
  · rw [inner_concat]
    exact h.serial.run hstep.inner
  · have hrequests := h.requests
    rw [hwaiting, Moment.ahead, hphase] at hrequests
    rw [inner_concat, Dispatcher.accepted_append, List.append_assoc]
    exact hrequests

/-- An open dispatcher refuses a request only if its queue is full, so some request waits there. -/
theorem full_of_send (h : Steady s lines moves x) {r : Request} {d : Dispatcher}
    {why : Dispatcher.Refusal} (hphase : x.phase = .offering)
    (hsend : x.console.dispatcher.send r = (.error why, d)) :
    why = .full ∧ x.console.dispatcher.queue ≠ [] := by
  have hin := h.inPhase
  rw [Moment.InPhase, hphase] at hin
  obtain ⟨-, -, haccepting⟩ := hin
  unfold Dispatcher.send at hsend
  rw [if_pos haccepting] at hsend
  split at hsend
  · cases hsend
  · rename_i hfull
    refine ⟨(Except.error.inj (Prod.mk.inj hsend).1).symm, ?_⟩
    intro hnil
    rw [hnil] at hfull
    exact hfull h.capacity

/-- A request is refused. -/
theorem refuse (h : Steady s lines moves x) {r : Request} {d : Dispatcher}
    {why : Dispatcher.Refusal} (hphase : x.phase = .offering)
    (hwaiting : x.console.waiting = some r)
    (hsend : x.console.dispatcher.send r = (.error why, d)) :
    Steady s lines (moves ++ [.refuse r why])
      { x with
        console := { x.console with dispatcher := d }
        phase := .afterRefusal why } := by
  have hstep := Step.refuse hphase hwaiting hsend
  have hsame := Dispatcher.send_refused (congrArg Prod.fst hsend)
  rw [congrArg Prod.snd hsend] at hsame
  obtain rfl : d = x.console.dispatcher := hsame
  obtain ⟨rfl, hqueue⟩ := h.full_of_send hphase hsend
  have hin := h.inPhase
  rw [Moment.InPhase, hphase] at hin
  obtain ⟨hsome, hreading, haccepting⟩ := hin
  refine h.quiet hstep rfl ?_ h.fault rfl ⟨hsome, hreading, haccepting, .inr ?_⟩
  · rw [Moment.ahead, Moment.ahead, hphase]
    rfl
  · exact List.append_ne_nil_of_right_ne_nil _ hqueue

/-- An event is taken. -/
theorem take (h : Steady s lines moves x) {e : Event} {d : Dispatcher} {next : Phase}
    (hphase : x.phase.afterEvent? = some next)
    (htake : x.console.dispatcher.take? = some (e, d))
    (hfault : x.console.takeEvent.fault = none) :
    Steady s lines (moves ++ [.take e])
      { x with
        console := x.console.takeEvent
        phase := x.console.takeEvent.phaseUnlessFault next } := by
  have hstep := Step.take hphase htake
  have hwaiting : x.console.takeEvent.waiting = x.console.waiting := by
    rw [takeEvent_of_some htake, waiting_handleEvent]
  have hreading : x.console.takeEvent.reading = x.console.reading := by
    rw [takeEvent_of_some htake, reading_handleEvent]
  obtain ⟨es, -, rfl⟩ := Dispatcher.take?_eq_some_iff.1 htake
  have hdispatcher : x.console.takeEvent.dispatcher =
      { x.console.dispatcher with events := es } := dispatcher_takeEvent htake
  have haccepting : x.console.takeEvent.dispatcher.accepting = x.console.dispatcher.accepting := by
    rw [hdispatcher]
  have hrunning : x.console.takeEvent.dispatcher.running = x.console.dispatcher.running := by
    rw [hdispatcher]
  have hcapacity : x.console.takeEvent.dispatcher.capacity = x.console.dispatcher.capacity := by
    rw [hdispatcher]
  rw [phaseUnlessFault_of_none hfault] at hstep ⊢
  refine h.quiet hstep rfl ?_ hfault hcapacity
    (h.inPhase.afterEvent hphase hwaiting hreading haccepting hrunning)
  rw [Moment.ahead, Moment.ahead, Phase.reads_afterEvent? hphase, hwaiting]

/-- **Every move keeps it so**, unless something goes wrong with the recording. -/
theorem step (h : Steady s lines moves x) {m : Move} (hm : Step x m y)
    (hfault : y.console.fault = none) : Steady s lines (moves ++ [m]) y := by
  have hin := h.inPhase
  cases hm with
  | read hphase hinput => exact h.read hphase hinput
  | endInput hphase hinput => exact h.endInput hphase hinput
  | take hphase htake => exact h.take hphase htake hfault
  | accept hphase hwaiting hsend => exact h.accept hphase hwaiting hsend
  | refuse hphase hwaiting hsend => exact h.refuse hphase hwaiting hsend
  | close hphase =>
      rw [Moment.InPhase, hphase] at hin
      refine h.quiet (.close hphase) rfl ?_ hfault rfl ⟨hin.1, rfl⟩
      rw [Moment.ahead, Moment.ahead, hphase]
      rfl
  | join hphase hrun =>
      rw [Moment.InPhase, hphase] at hin
      refine h.quiet (.join hphase hrun) rfl ?_ hfault rfl ⟨hin.1, hrun⟩
      rw [Moment.ahead, Moment.ahead, hphase]
      rfl
  | confirm hphase hevents =>
      rw [Moment.InPhase, hphase] at hin
      have hstep := Step.confirm hphase hevents
      rw [confirm_of_fault hfault, phaseUnlessFault_of_none h.fault] at hstep ⊢
      refine h.quiet hstep rfl ?_ h.fault rfl ⟨hin.1, hin.2, hevents⟩
      rw [Moment.ahead, Moment.ahead, hphase]
      rfl
  | lose hphase hevents hrun =>
      -- whoever waits for an event has not closed the dispatcher
      have haccepting : x.console.dispatcher.accepting = true := by
        rcases hphase with hphase | hphase
        · rw [Moment.InPhase, hphase] at hin
          exact hin.2.2
        · rw [Moment.InPhase, hphase] at hin
          exact hin.2.2.1
      rw [h.running_of_accepting haccepting] at hrun
      cases hrun
  | background hm hstep =>
      obtain ⟨-, hcapacity, -, haccepted, -⟩ := accepting_of_background hstep hm
      refine h.quiet (.background hm hstep) haccepted rfl h.fault hcapacity ?_
      exact hin.withInner hm hstep fun r hr => h.isBlank_of_mem r (List.mem_append_left _ hr)

/-! ### Going on -/

/-- While the console waits for an event, there is one, or the worker has a request that will give
one. -/
theorem busy_of_draining (h : Steady s lines moves x) (hphase : x.phase = .draining) :
    x.console.dispatcher.accepting = true ∧ Busy x.inner := by
  have hin := h.inPhase
  rw [Moment.InPhase, hphase] at hin
  exact hin.2.2

/-- So the worker can go on if there is no event. -/
theorem exists_step_of_draining (h : Steady s lines moves x) (hphase : x.phase = .draining) :
    ∃ m y, m.passesTime = false ∧ Step x m y := by
  obtain ⟨haccepting, hbusy⟩ := h.busy_of_draining hphase
  cases hevents : x.console.dispatcher.events with
  | cons e es =>
      have hnext : x.phase.afterEvent? = some .offering := by
        rw [hphase]
        rfl
      exact exists_take hnext hevents
  | nil => exact exists_background (h.running_of_accepting haccepting) (hbusy.ready hevents)

/-- **The console is never stuck before its end**: there always is a move that does not only let
time pass. -/
theorem exists_step (h : Steady s lines moves x) (hne : x.phase ≠ .ended) :
    ∃ m y, m.passesTime = false ∧ Step x m y := by
  have hin := h.inPhase
  cases hphase : x.phase with
  | selecting =>
      cases hinput : x.input with
      | nil => exact ⟨_, _, rfl, .endInput hphase hinput⟩
      | cons line rest => exact ⟨_, _, rfl, .read hphase hinput⟩
  | offering =>
      rw [Moment.InPhase, hphase] at hin
      obtain ⟨r, hr⟩ := Option.isSome_iff_exists.1 hin.1
      cases hsend : x.console.dispatcher.send r with
      | mk result d =>
          cases result with
          | ok => exact ⟨_, _, rfl, .accept hphase hr hsend⟩
          | error why => exact ⟨_, _, rfl, .refuse hphase hr hsend⟩
  | draining => exact h.exists_step_of_draining hphase
  | leaving => exact ⟨_, _, rfl, .close hphase⟩
  | joining =>
      rw [Moment.InPhase, hphase] at hin
      cases hrun : x.console.dispatcher.running with
      | false => exact ⟨_, _, rfl, .join hphase hrun⟩
      | true => exact exists_background hrun fun _ _ => hin.2
  | emptying =>
      cases hevents : x.console.dispatcher.events with
      | nil => exact ⟨_, _, rfl, .confirm hphase hevents⟩
      | cons e es =>
          have hnext : x.phase.afterEvent? = some .emptying := by
            rw [hphase]
            rfl
          exact exists_take hnext hevents
  | ended => exact absurd hphase hne
  | failed =>
      rw [Moment.InPhase, hphase] at hin
      exact absurd hin id

/-! ### The end -/

/-- **At the end everything is done**: the worker has stopped, every event was taken, and every
request of the lines was accepted and handled. -/
theorem complete_of_ended (h : Steady s lines moves x) (hphase : x.phase = .ended) :
    x.console.dispatcher.running = false ∧ x.console.dispatcher.events = [] ∧
      x.console.dispatcher.session = s.run (operations (inner moves)) ∧
      collected (inner moves) = s.eventsOf (operations (inner moves)) ∧
      accepted (inner moves) = requestsOf lines ∧
      (rounds (inner moves)).filterMap Round.request? = requestsOf lines := by
  have hin := h.inPhase
  rw [Moment.InPhase, hphase] at hin
  obtain ⟨hwaiting, hrun, hevents⟩ := hin
  obtain ⟨hhandled, -, hsession, htold⟩ := h.serial.complete hrun
  have hcollected : collected (inner moves) = s.eventsOf (operations (inner moves)) := by
    have hnone : x.inner.dispatcher.events = [] := hevents
    rwa [hnone, List.append_nil] at htold
  have haccepted : accepted (inner moves) = requestsOf lines := by
    have hrequests := h.requests
    rw [hwaiting, Moment.ahead, hphase] at hrequests
    simpa [Phase.reads] using hrequests
  exact ⟨hrun, hevents, hsession, hcollected, haccepted, hhandled.symm.trans haccepted⟩

end Steady

/-! ### Whole runs -/

/-- The console at its start, with all lines to be read. -/
def Moment.start (c : Console) (lines : List String) (clock : Nat) : Moment :=
  { console := c, clock := clock, input := lines }

/-- A console that has just been started, whether or not it records. -/
theorem Steady.start (s : Session) (capacity : Nat) (recorder : Option Writer)
    (lines : List String) (clock : Nat) :
    Steady s lines []
      (.start { dispatcher := .ofSession s capacity, recorder := recorder } lines clock) := by
  have hcapacity : 0 < Dispatcher.resolveCapacity capacity := by
    unfold Dispatcher.resolveCapacity Dispatcher.maxCapacity
    omega
  exact ⟨.ofSession s capacity clock, rfl, rfl, hcapacity, rfl, rfl, rfl⟩

/-- **Every run keeps it so**, unless something goes wrong with the recording. -/
theorem Run.steady {s : Session} {lines : List String} {x y : Moment} {moves moves' : List Move}
    (h : Run x moves' y) (hx : Steady s lines moves x) (hfault : y.console.fault = none) :
    Steady s lines (moves ++ moves') y := by
  induction h with
  | refl => rwa [List.append_nil]
  | snoc _ hm ih =>
      rw [← List.append_assoc]
      exact (ih (hm.fault_eq_none hfault)).step hm hfault

end Console

end TorusRobot
