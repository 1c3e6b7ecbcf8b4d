/-
**The order in which the program does things.**

The program leaves nothing to chance: it reads a line, lets the worker do what there is to do, and
handles the events, and at the end it lets the worker do the rest.  This is one of the orders in
which console and worker may make their moves.  In one respect it looks different: after the line
that ends the input the program handles events before it closes the dispatcher, while the console
closes it first.  What is printed and recorded is the same.

Main definitions:

* `TorusRobot.Dispatcher.withEarlier` — a dispatcher with more events;
* `TorusRobot.Console.Moment.Calm` — the moments between two lines.

Main results:

* `TorusRobot.Console.takeEvents_finish` — events may be handled before the dispatcher is closed or
  after;
* `TorusRobot.Console.run_turn` — what is done for a line is a run;
* `TorusRobot.Console.run_program` — **what the program does is a run** that comes to its end.
-/
import TorusRobot.Proofs.Console.Faithful

set_option relaxedAutoImplicit false
set_option autoImplicit false

namespace TorusRobot

open Recording

/-! ### The worker on its own -/

namespace Dispatcher

/-- Without notices on show, waking up without a request does nothing. -/
theorem wake_of_idle {d : Dispatcher} (hqueue : d.queue = []) (haccepting : d.accepting = true)
    (hdeadline : d.session.tray.nextDeadline? = none) (now : Nat) : d.wake now = d := by
  have hactive : d.session.tray.active = [] := by
    rwa [Tray.nextDeadline?, List.min?_eq_none_iff, List.map_eq_nil_iff] at hdeadline
  have hkept : d.session.tray.onShow.filter (fun e => !decide (e.deadline ≤ now)) =
      d.session.tray.onShow := by
    refine Queue.filter_eq_self ?_
    intro e he
    have hmem : e ∈ d.session.tray.active := he
    rw [hactive] at hmem
    cases hmem
  have hexpire : d.session.expire now = (d.session, []) := by
    simp [Session.expire, Tray.expire, hactive, hkept]
  have hturn : d.session.turn none now = (d.session, []) := by
    rw [Session.turn_none, hexpire]
    rfl
  obtain ⟨session, capacity, queue, events, accepting, running⟩ := d
  cases running <;> simp_all [wake]

/-- Waking up is a run in any case. -/
theorem exists_run_wake (d : Dispatcher) (t now : Nat) :
    ∃ moves t', (∀ m ∈ moves, m.background = true) ∧
      Run ⟨d, .waiting, t⟩ moves ⟨d.wake now, .waiting, t'⟩ := by
  by_cases hidle : d.queue = [] ∧ d.accepting = true ∧ d.session.tray.nextDeadline? = none
  · obtain ⟨hqueue, haccepting, hdeadline⟩ := hidle
    rw [wake_of_idle hqueue haccepting hdeadline]
    exact ⟨[], t, List.forall_mem_nil _, .refl _⟩
  · have hdue : d.queue = [] → d.accepting = true → d.session.tray.nextDeadline?.isSome := by
      intro hqueue haccepting
      rw [Option.isSome_iff_ne_none]
      exact fun hdeadline => hidle ⟨hqueue, haccepting, hdeadline⟩
    obtain ⟨moves, hmoves, hrun⟩ := run_wake t now hdue
    exact ⟨moves, now, hmoves, hrun⟩

/-- Waking up takes the oldest request out of the queue. -/
theorem queue_wake {d : Dispatcher} (hrun : d.running = true) (now : Nat) :
    (d.wake now).queue = d.queue.tail := by
  unfold wake
  rw [if_pos hrun]
  cases d.queue with
  | nil => cases d.accepting <;> rfl
  | cons r rs => rfl

theorem settings_wake (d : Dispatcher) (now : Nat) :
    (d.wake now).session.settings = d.session.settings := by
  have hturn (r? : Option Request) :
      (d.session.turn r? now).1.settings = d.session.settings := by
    rw [Session.turn_eq, Session.settings_expire, Session.serve_fst, Session.settings_run]
  unfold wake
  split
  · split
    · exact hturn (some _)
    · split
      · exact hturn none
      · rfl
  · rfl

theorem settings_work (d : Dispatcher) (clock : Nat → Nat) (n : Nat) :
    (d.work clock n).session.settings = d.session.settings := by
  induction n generalizing d with
  | zero => rfl
  | succ n ih => rw [work, ih, settings_wake]

/-- The dispatcher with events before those that wait. -/
def withEarlier (es : List Event) (d : Dispatcher) : Dispatcher :=
  { d with events := es ++ d.events }

/-- The worker is not concerned by the events that wait. -/
theorem wake_withEarlier (es : List Event) (d : Dispatcher) (now : Nat) :
    (d.withEarlier es).wake now = (d.wake now).withEarlier es := by
  obtain ⟨session, capacity, queue, events, accepting, running⟩ := d
  cases running with
  | false => rfl
  | true =>
      cases queue with
      | cons r rs => simp [wake, withEarlier]
      | nil => cases accepting <;> simp [wake, withEarlier]

theorem work_withEarlier (es : List Event) (d : Dispatcher) (clock : Nat → Nat) (n : Nat) :
    (d.withEarlier es).work clock n = (d.work clock n).withEarlier es := by
  induction n generalizing d with
  | zero => rfl
  | succ n ih => rw [work, work, wake_withEarlier, ih]

theorem finish_withEarlier (es : List Event) (d : Dispatcher) (clock : Nat → Nat) :
    (d.withEarlier es).finish clock = (d.finish clock).withEarlier es :=
  work_withEarlier es d.close clock (d.queue.length + 1)

end Dispatcher

namespace Console

/-! ### Handling events -/

/-- Of the dispatcher, handling an event looks at the settings only. -/
theorem handleEvent_withDispatcher {c : Console} {d : Dispatcher}
    (h : d.session.settings = c.dispatcher.session.settings) (e : Event) :
    { c with dispatcher := d }.handleEvent e = { c.handleEvent e with dispatcher := d } := by
  obtain ⟨dispatcher, recorder, waiting, reading, printed, fault⟩ := c
  have hrecord (w : Writer) : record d.session.settings e w =
      record dispatcher.session.settings e w := by rw [h]
  cases fault with
  | some fault => rfl
  | none =>
      cases recorder with
      | none => rfl
      | some w =>
          simp only [handleEvent, Option.isSome_none, Bool.false_eq_true, if_false, print, hrecord]
          split <;> rfl

theorem foldl_handleEvent_withDispatcher {c : Console} {d : Dispatcher}
    (h : d.session.settings = c.dispatcher.session.settings) (es : List Event) :
    es.foldl handleEvent { c with dispatcher := d } =
      { es.foldl handleEvent c with dispatcher := d } := by
  induction es generalizing c with
  | nil => rfl
  | cons e es ih =>
      rw [List.foldl_cons, List.foldl_cons, handleEvent_withDispatcher h, ih]
      rw [dispatcher_handleEvent]
      exact h

theorem dispatcher_foldl_handleEvent (c : Console) (es : List Event) :
    (es.foldl handleEvent c).dispatcher = c.dispatcher := by
  induction es generalizing c with
  | nil => rfl
  | cons e es ih => rw [List.foldl_cons, ih, dispatcher_handleEvent]

theorem dispatcher_takeEvents (c : Console) :
    c.takeEvents.dispatcher = { c.dispatcher with events := [] } := by
  rw [takeEvents, dispatcher_foldl_handleEvent]

theorem takeEvents_of_nil {c : Console} (h : c.dispatcher.events = []) : c.takeEvents = c := by
  obtain ⟨⟨session, capacity, queue, events, accepting, running⟩, _⟩ := c
  cases h
  rfl

/-- To handle all events is to handle the first one, then the others. -/
theorem takeEvents_of_cons {c : Console} {e : Event} {es : List Event}
    (h : c.dispatcher.events = e :: es) : c.takeEvents = c.takeEvent.takeEvents := by
  have htake := Dispatcher.take?_eq_some_iff.2 ⟨es, h, rfl⟩
  let first : Console := { c with dispatcher := { c.dispatcher with events := es } }
  let last : Dispatcher := { c.dispatcher with events := [] }
  have hfirst : { first with dispatcher := last }.handleEvent e =
      { first.handleEvent e with dispatcher := last } :=
    handleEvent_withDispatcher (c := first) (d := last) rfl e
  rw [takeEvents, h, List.foldl_cons, takeEvents, dispatcher_takeEvent htake,
    takeEvent_of_some htake]
  exact congrArg (es.foldl handleEvent) hfirst

/-- **Events may be handled before the dispatcher is closed, or after it.** -/
theorem takeEvents_finish (c : Console) (clock : Nat → Nat) :
    { c.takeEvents with dispatcher := c.takeEvents.dispatcher.finish clock }.takeEvents =
      { c with dispatcher := c.dispatcher.finish clock }.takeEvents := by
  let waiting := c.dispatcher.events
  let rest : Dispatcher := { c.dispatcher with events := [] }
  let closed := rest.finish clock
  let last : Dispatcher := { closed with events := [] }
  -- the events that wait now come before those that come of closing
  have hsplit : c.dispatcher = rest.withEarlier waiting := by
    simp [Dispatcher.withEarlier, rest, waiting]
  have hfinish : c.dispatcher.finish clock = closed.withEarlier waiting := by
    rw [hsplit, Dispatcher.finish_withEarlier]
  have hsettings : last.session.settings = rest.session.settings :=
    rest.close.settings_work clock (rest.queue.length + 1)
  have hwaiting : waiting.foldl handleEvent { c with dispatcher := last } =
      { c.takeEvents with dispatcher := last } :=
    foldl_handleEvent_withDispatcher (c := { c with dispatcher := rest }) hsettings waiting
  calc { c.takeEvents with dispatcher := c.takeEvents.dispatcher.finish clock }.takeEvents
      = closed.events.foldl handleEvent { c.takeEvents with dispatcher := last } := by
        rw [dispatcher_takeEvents, takeEvents]
    _ = (waiting ++ closed.events).foldl handleEvent { c with dispatcher := last } := by
        rw [List.foldl_append, hwaiting]
    _ = { c with dispatcher := c.dispatcher.finish clock }.takeEvents := by
        rw [hfinish, takeEvents]
        rfl

theorem reading_takeEvents (c : Console) : c.takeEvents.reading = c.reading := by
  have hfold (es : List Event) (c : Console) : (es.foldl handleEvent c).reading = c.reading := by
    induction es generalizing c with
    | nil => rfl
    | cons e es ih => rw [List.foldl_cons, ih, reading_handleEvent]
  rw [takeEvents, hfold]

/-- After the line that ends the input it makes no difference when events are handled. -/
theorem finish_takeEvents {c : Console} (h : c.reading = false) (clock : Nat → Nat) :
    c.takeEvents.finish clock = c.finish clock := by
  have htake := (reading_takeEvents c).trans h
  have hfinish {c : Console} (h : c.reading = false) :
      c.finish clock = { c with dispatcher := c.dispatcher.finish clock }.takeEvents.confirm := by
    rw [finish, ← h]
  rw [hfinish htake, hfinish h, takeEvents_finish]

/-- Later lines are not read. -/
theorem foldl_turn_of_not_reading {c : Console} (h : c.reading = false) (clock : Nat → Nat)
    (lines : List (String × Nat)) :
    lines.foldl (fun c line => c.turn line.1 (clock line.2)) c = c := by
  induction lines with
  | nil => rfl
  | cons line lines ih =>
      have hturn : c.turn line.1 (clock line.2) = c := by simp [turn, h]
      rw [List.foldl_cons, hturn, ih]

/-! ### What the program does is a run -/

variable {s : Session} {w : Writer} {lines : List String} {moves : List Move} {x : Moment}

/-- Handling all events is a run. -/
theorem run_takeEvents (hw : Recordable w lines) (h : Faithful s w lines moves x)
    (hphase : x.phase.afterEvent? = some x.phase) :
    ∃ moves', Run x moves' { x with console := x.console.takeEvents } := by
  generalize hes : x.console.dispatcher.events = es
  induction es generalizing x moves with
  | nil =>
      rw [takeEvents_of_nil hes]
      exact ⟨[], .refl x⟩
  | cons e es ih =>
      have htake := Dispatcher.take?_eq_some_iff.2 ⟨es, hes, rfl⟩
      have hstep := Step.take hphase htake
      have hnext : x.console.takeEvent.phaseUnlessFault x.phase = x.phase := by
        have hfault : x.console.takeEvent.fault = none := (h.step hw hstep).fault
        simp [phaseUnlessFault, hfault]
      rw [hnext] at hstep
      have hevents : x.console.takeEvent.dispatcher.events = es := by
        rw [dispatcher_takeEvent htake]
      obtain ⟨moves', hrest⟩ := ih (h.step hw hstep) hphase hevents
      rw [takeEvents_of_cons hes]
      exact ⟨_, .cons hstep hrest⟩

/-- Closing the dispatcher and waiting for the worker is a run. -/
theorem run_close (h : Faithful s w lines moves x) (hphase : x.phase = .leaving)
    (hstage : x.stage = .waiting) (clock : Nat → Nat) :
    ∃ moves' t, Run x moves'
      { x with
        console := { x.console with dispatcher := x.console.dispatcher.finish clock }
        clock := t
        phase := .emptying } := by
  have hin := h.inPhase
  rw [Moment.InPhase, hphase] at hin
  have hrunning := h.steady.running_of_accepting hin.2
  let closed : Moment :=
    { x with
      console := { x.console with dispatcher := x.console.dispatcher.close }
      phase := .joining }
  have hclose : Step x .close closed := .close hphase
  obtain ⟨work, t, hwork, hrun⟩ := Dispatcher.run_work (d := x.console.dispatcher.close) rfl x.clock
    clock (x.console.dispatcher.queue.length + 1)
  rw [← hstage] at hrun
  have hworked : Run closed _ _ := run_background hrun hwork
  have hjoined := hworked.snoc (.join rfl (Dispatcher.queue_finish clock hrunning).2)
  exact ⟨_, t, .cons hclose hjoined⟩

/-- Handling what is left and confirming the recording is a run. -/
theorem run_confirm (hw : Recordable w lines) (h : Faithful s w lines moves x)
    (hphase : x.phase = .emptying) :
    ∃ moves', Run x moves' { x with console := x.console.takeEvents.confirm, phase := .ended } := by
  have hafter : x.phase.afterEvent? = some x.phase := by
    rw [hphase]
    rfl
  obtain ⟨taken, htaken⟩ := run_takeEvents hw h hafter
  have hnone : x.console.takeEvents.dispatcher.events = [] := by rw [dispatcher_takeEvents]
  let emptied : Moment := { x with console := x.console.takeEvents }
  have hconfirm : Step emptied .confirm _ := .confirm hphase hnone
  have hended := htaken.snoc hconfirm
  have hnext : x.console.takeEvents.confirm.phaseUnlessFault .ended = .ended := by
    have hfault : x.console.takeEvents.confirm.fault = none := (hended.faithful h hw).fault
    simp [phaseUnlessFault, hfault]
  rw [hnext] at hended
  exact ⟨_, hended⟩

/-- **The end of the program is a run** that comes to its end. -/
theorem run_finish (hw : Recordable w lines) (h : Faithful s w lines moves x)
    (hphase : x.phase = .leaving) (hstage : x.stage = .waiting)
    (hreading : x.console.reading = false) (clock : Nat → Nat) :
    ∃ moves' y, Run x moves' y ∧ y.phase = .ended ∧ y.console = x.console.finish clock := by
  obtain ⟨close, t, hclose⟩ := run_close h hphase hstage clock
  obtain ⟨confirm, hconfirm⟩ := run_confirm hw (hclose.faithful h hw) rfl
  refine ⟨_, _, hclose.trans hconfirm, rfl, ?_⟩
  rw [finish, ← hreading]

/-! ### One line, and all of them -/

/-- The console waits for a line, and the worker for a request. -/
structure Moment.Calm (x : Moment) : Prop where
  phase : x.phase = .selecting
  stage : x.stage = .waiting
  queue : x.console.dispatcher.queue = []

/-- Waking up is a run. -/
theorem run_wake (hstage : x.stage = .waiting) (now : Nat) :
    ∃ moves' t, Run x moves' { x with console := x.console.wake now, clock := t } := by
  obtain ⟨moves', t, hmoves, hrun⟩ :=
    Dispatcher.exists_run_wake x.console.dispatcher x.clock now
  rw [← hstage] at hrun
  exact ⟨_, t, run_background hrun hmoves⟩

/-- Reading a line without a request is a run. -/
theorem run_quiet (hphase : x.phase = .selecting) {line : String} {rest : List String}
    (hinput : x.input = line :: rest) {c : Console} (hc : x.console.readLine line = c)
    (hwaiting : c.waiting = none) (hreading : c.reading = true) :
    ∃ moves', Run x moves' { x with console := c.offer, input := rest, phase := .selecting } := by
  have hread := Step.read hphase hinput
  have hoffer : c.offer = c := by simp [offer, hwaiting]
  have hnext : c.phaseAfterLine = .selecting := by simp [phaseAfterLine, hwaiting, hreading]
  rw [hc, hnext] at hread
  rw [hoffer]
  exact ⟨_, .single hread⟩

/-- Reading a line with a request and passing it on is a run, if the queue is not full. -/
theorem run_request (hphase : x.phase = .selecting) {line : String} {rest : List String}
    (hinput : x.input = line :: rest) {r : Request} {d : Dispatcher}
    (hc : x.console.readLine line = { x.console with waiting := some r })
    (hfault : x.console.fault = none) (hwaiting : x.console.waiting = none)
    (hsend : x.console.dispatcher.send r = (.ok (), d)) :
    (x.console.readLine line).offer = { x.console with dispatcher := d } ∧
      ∃ moves', Run x moves'
        { x with
          console := { x.console with dispatcher := d }
          input := rest
          phase := .selecting } := by
  have hread := Step.read hphase hinput
  rw [hc] at hread ⊢
  have haccepted := (Run.single hread).snoc (.accept rfl rfl hsend)
  have hsame : { x.console with dispatcher := d, waiting := none } =
      { x.console with dispatcher := d } := by rw [← hwaiting]
  rw [hsame] at haccepted
  refine ⟨?_, _, haccepted⟩
  rw [← hsame]
  simp [offer, hfault, hsend]

/-- Reading a line and passing its request on is a run, unless it is the line that ends the
input. -/
theorem run_offer (h : Faithful s w lines moves x) (hx : x.Calm) {line : String}
    {rest : List String} (hinput : x.input = line :: rest) (hline : Input.ofLine line ≠ .quit) :
    (x.console.readLine line).offer.dispatcher.queue.tail = [] ∧
      ∃ moves', Run x moves'
        { x with
          console := (x.console.readLine line).offer
          input := rest
          phase := .selecting } := by
  have hin := h.inPhase
  rw [Moment.InPhase, hx.phase] at hin
  obtain ⟨hwaiting, hreading, haccepting⟩ := hin
  have hc := readLine_eq hwaiting hreading h.fault line
  cases hl : Input.ofLine line with
  | request r =>
      rw [hl] at hc
      have hroom : x.console.dispatcher.queue.length < x.console.dispatcher.capacity := by
        rw [hx.queue]
        exact h.capacity
      have hsend := (Dispatcher.send_eq_ok_iff (r := r)).2 ⟨haccepting, hroom, rfl⟩
      obtain ⟨hoffer, hrun⟩ := run_request hx.phase hinput hc h.fault hwaiting hsend
      rw [hoffer]
      refine ⟨?_, hrun⟩
      change (x.console.dispatcher.queue ++ [r]).tail = []
      rw [hx.queue]
      rfl
  | skip =>
      rw [hl] at hc
      have hrun := run_quiet hx.phase hinput hc hwaiting hreading
      rw [hc]
      refine ⟨?_, hrun⟩
      simp [offer, hwaiting, hx.queue]
  | quit => exact absurd hl hline
  | rejected reason =>
      rw [hl] at hc
      have hrun := run_quiet hx.phase hinput hc hwaiting hreading
      rw [hc]
      refine ⟨?_, hrun⟩
      simp [offer, print, hwaiting, hx.queue]

/-- **What is done for a line is a run**, unless it is the line that ends the input. -/
theorem run_turn (hw : Recordable w lines) (h : Faithful s w lines moves x) (hx : x.Calm)
    {line : String} {rest : List String} (hinput : x.input = line :: rest)
    (hline : Input.ofLine line ≠ .quit) (now : Nat) :
    ∃ moves' y, Run x moves' y ∧ y.Calm ∧ y.input = rest ∧ y.console = x.console.turn line now := by
  have hin := h.inPhase
  rw [Moment.InPhase, hx.phase] at hin
  have hturn : x.console.turn line now =
      (((x.console.readLine line).offer).wake now).takeEvents := by
    rw [turn, if_pos hin.2.1]
  obtain ⟨htail, offered, hoffered⟩ := run_offer h hx hinput hline
  have hfaithful := hoffered.faithful h hw
  have hrunning := hfaithful.steady.running_of_accepting hfaithful.inPhase.2.2
  obtain ⟨woken, t, hwoken⟩ := run_wake (x := { x with
    console := (x.console.readLine line).offer
    input := rest
    phase := .selecting }) hx.stage now
  obtain ⟨taken, htaken⟩ := run_takeEvents hw ((hoffered.trans hwoken).faithful h hw) rfl
  refine ⟨_, _, (hoffered.trans hwoken).trans htaken, ⟨rfl, hx.stage, ?_⟩, rfl, hturn.symm⟩
  change (((x.console.readLine line).offer).wake now).takeEvents.dispatcher.queue = []
  rw [dispatcher_takeEvents]
  exact (Dispatcher.queue_wake hrunning now).trans htail

/-- The line that ends the input, and the end after it, are a run. -/
theorem run_quit (hw : Recordable w lines) (h : Faithful s w lines moves x) (hx : x.Calm)
    {line : String} {rest : List String} (hinput : x.input = line :: rest)
    (hline : Input.ofLine line = .quit) (now : Nat) (clock : Nat → Nat) :
    (x.console.turn line now).reading = false ∧
      ∃ moves' y, Run x moves' y ∧ y.phase = .ended ∧
        y.console = (x.console.turn line now).finish clock := by
  have hin := h.inPhase
  rw [Moment.InPhase, hx.phase] at hin
  obtain ⟨hwaiting, hreading, -⟩ := hin
  let last : Console := { x.console with reading := false }
  have hlast : x.console.readLine line = last := by
    rw [readLine_eq hwaiting hreading h.fault, hline]
  have hoffer : last.offer = last := by simp [offer, last, hwaiting]
  have hphase : last.phaseAfterLine = .leaving := by simp [phaseAfterLine, last, hwaiting]
  have hturn : x.console.turn line now = (last.wake now).takeEvents := by
    rw [turn, if_pos hreading, hlast, hoffer]
  have hread := Run.single (.read hx.phase hinput)
  rw [hlast, hphase] at hread
  obtain ⟨woken, t, hwoken⟩ :=
    run_wake (x := { x with console := last, input := rest, phase := .leaving }) hx.stage now
  obtain ⟨ending, y, hending, hended, hy⟩ :=
    run_finish hw ((hread.trans hwoken).faithful h hw) rfl hx.stage rfl clock
  -- the run closes the dispatcher at once, but it makes no difference
  have hreading' : (last.wake now).reading = false := rfl
  rw [hturn, reading_takeEvents, finish_takeEvents hreading']
  exact ⟨rfl, _, y, (hread.trans hwoken).trans hending, hended, hy⟩

/-- **What the program does is a run** that comes to its end. -/
theorem run_program (hw : Recordable w lines) (h : Faithful s w lines moves x) (hx : x.Calm)
    (clock : Nat → Nat) (k : Nat) :
    ∃ moves' y, Run x moves' y ∧ y.phase = .ended ∧
      y.console = ((x.input.zipIdx k).foldl (fun c line => c.turn line.1 (clock line.2))
        x.console).finish clock := by
  generalize hinput : x.input = input
  induction input generalizing x moves k with
  | nil =>
      have hend := Run.single (.endInput hx.phase hinput)
      obtain ⟨moves', y, hrun, hended, hy⟩ :=
        run_finish hw (hend.faithful h hw) rfl hx.stage rfl clock
      exact ⟨_, y, hend.trans hrun, hended, hy⟩
  | cons line rest ih =>
      rw [List.zipIdx_cons, List.foldl_cons]
      by_cases hline : Input.ofLine line = .quit
      · obtain ⟨hreading, hrun⟩ := run_quit hw h hx hinput hline (clock k) clock
        rw [foldl_turn_of_not_reading hreading]
        exact hrun
      · obtain ⟨moves', y, hrun, hy, hrest, hturn⟩ := run_turn hw h hx hinput hline (clock k)
        obtain ⟨moves'', z, hrun', hended, hz⟩ := ih (hrun.faithful h hw) hy (k + 1) hrest
        rw [hturn] at hz
        exact ⟨_, z, hrun.trans hrun', hended, hz⟩

end Console

end TorusRobot
