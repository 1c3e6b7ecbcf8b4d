/-
**The console never waits in vain.**

A line is skipped exactly if the session would not answer it, so every request that is passed on is
answered by one event.  At any time the requests accepted are those that events have answered, then
those that the worker has in hand or in its queue.  When the queue is full, then, there is a request
in it, and the event that the console waits for comes after a number of moves of the worker that is
known beforehand.

Every event is printed, and recorded if the session is, once and in order, and those that are left
when the worker has stopped are no exception.

Main definitions:

* `TorusRobot.Event.isExpiry` — the events that answer no request;
* `TorusRobot.Dispatcher.Stage.untilEvent` — the moves that the worker makes until it answers;
* `TorusRobot.Console.Handled` — what was printed and recorded is what the moves brought.

Main results:

* `TorusRobot.Console.Input.ofLine_eq_skip_iff_submit` — which lines are skipped;
* `TorusRobot.Console.Steady.accepted_eq` — where the accepted requests are;
* `TorusRobot.Console.Steady.event_comes` — the event that is waited for comes;
* `TorusRobot.Console.Handled.step`, `TorusRobot.Console.Run.handled` — every move, and every run,
  handles its events;
* `TorusRobot.Console.never_waits_in_vain` — **the console never waits for an event that cannot
  come**.
-/
import TorusRobot.Proofs.Console.Steady

set_option relaxedAutoImplicit false
set_option autoImplicit false

namespace TorusRobot

open Recording

/-! ### Answers -/

/-- Whether an event tells that notices have expired.  Every other event answers a request. -/
def Event.isExpiry : Event → Bool
  | expired _ => true
  | applied _ _ _ _ | reset _ | dismissed _ _ => false

theorem Event.isSome_request? (e : Event) : e.request?.isSome = !e.isExpiry := by
  cases e <;> rfl

/-- **Exactly the lines are skipped that a session would not answer**, whatever its settings and its
state. -/
theorem Console.Input.ofLine_eq_skip_iff_submit {line : String} {s : Session} {now : Nat} :
    Input.ofLine line = .skip ↔ (s.submit line now).2 = none :=
  ofLine_eq_skip_iff.trans Session.submit_eq_none_iff_allBlank.symm

/-! ### How long the worker takes -/

namespace Dispatcher

/-- The moves that the worker makes until it answers a request, if it has one in hand or in the
queue.  In the midst of a round without a request it has to end this round first. -/
def Stage.untilEvent : Stage → Nat
  | ready ⟨some _, _⟩ => 1
  | woken (some _) => 2
  | waiting => 3
  | clearing _ => 4
  | ready ⟨none, _⟩ => 5
  | woken none => 6

theorem Stage.untilEvent_pos (stage : Stage) : 1 ≤ stage.untilEvent := by
  unfold untilEvent
  split <;> decide

theorem Stage.untilEvent_le (stage : Stage) : stage.untilEvent ≤ 6 := by
  unfold untilEvent
  split <;> decide

variable {x y : Moment}

/-- Clock and worker take no event away. -/
theorem Step.events_prefix {m : Move} (h : Step x m y) (hm : m.background = true) :
    x.dispatcher.events <+: y.dispatcher.events := by
  cases h with
  | accept | refuse | close | collect => cases hm
  | handle | clear => exact List.prefix_append _ _
  | tick | receive | timeOut | look | stop => exact List.prefix_rfl

/-- Clock and worker bring no requests. -/
theorem Step.requests_subset {m : Move} (h : Step x m y) (hm : m.background = true) :
    y.stage.inHand ++ y.dispatcher.queue ⊆ x.stage.inHand ++ x.dispatcher.queue := by
  cases h with
  | accept | refuse | close | collect => cases hm
  | tick now => exact List.Subset.refl _
  | receive hrun hstage hqueue =>
      rw [hstage, hqueue]
      exact List.Subset.refl _
  | timeOut hrun hstage =>
      rw [hstage]
      exact List.Subset.refl _
  | look hrun hstage =>
      rw [hstage]
      exact List.Subset.refl _
  | handle hrun hstage => exact List.subset_append_right _ _
  | clear hrun hstage =>
      rw [hstage]
      exact List.Subset.refl _
  | stop hrun hstage => exact List.Subset.refl _

end Dispatcher

namespace Console

open Dispatcher (accepted collected operations rounds)

section Waiting

variable {x y : Dispatcher.Moment}

/-- A move of the worker brings it nearer to an answer, unless there is an event by then. -/
theorem untilEvent_step {m : Dispatcher.Move} (hbusy : Busy x) (h : Dispatcher.Step x m y)
    (hm : m.background = true) (hblank : ∀ r ∈ x.stage.inHand, r.isBlank = false) :
    y.dispatcher.events ≠ [] ∨
      y.stage.untilEvent + (if m.byWorker then 1 else 0) ≤ x.stage.untilEvent := by
  cases h with
  | accept | refuse | close | collect => cases hm
  | tick now => exact .inr (Nat.le_refl _)
  | receive hrun hstage hqueue =>
      rw [hstage]
      exact .inr (Nat.le_refl _)
  | timeOut hrun hstage hqueue =>
      rw [Busy, hstage, hqueue] at hbusy
      exact .inl (hbusy.resolve_right fun hne => hne rfl)
  | @look r? hrun hstage =>
      rw [hstage]
      cases r? with
      | none => exact .inr (Nat.le_refl _)
      | some r => exact .inr (Nat.le_refl _)
  | @handle round hrun hstage =>
      obtain ⟨request?, now⟩ := round
      rw [hstage] at hblank ⊢
      cases request? with
      | none => exact .inr (Nat.le_refl _)
      | some r =>
          have hanswer : (x.dispatcher.session.serve ⟨some r, now⟩).2.toList ≠ [] :=
            serve_snd_ne_nil _ rfl (hblank r (List.mem_singleton.2 rfl))
          exact .inl (List.append_ne_nil_of_right_ne_nil _ hanswer)
  | clear hrun hstage =>
      rw [hstage]
      exact .inr (Nat.le_refl _)
  | stop hrun hstage hqueue =>
      rw [Busy, hstage, hqueue] at hbusy
      exact .inl (hbusy.resolve_right fun hne => hne rfl)

/-- **The worker makes its way to an answer**: its moves are counted off until there is an event. -/
theorem untilEvent_run {moves : List Dispatcher.Move} (hbusy : Busy x)
    (hblank : ∀ r ∈ x.stage.inHand ++ x.dispatcher.queue, r.isBlank = false)
    (h : Dispatcher.Run x moves y) (hmoves : ∀ m ∈ moves, m.background = true) :
    Busy y ∧ (∀ r ∈ y.stage.inHand ++ y.dispatcher.queue, r.isBlank = false) ∧
      (y.dispatcher.events ≠ [] ∨
        y.stage.untilEvent + moves.countP Dispatcher.Move.byWorker ≤ x.stage.untilEvent) := by
  induction h with
  | refl => exact ⟨hbusy, hblank, .inr (Nat.le_refl _)⟩
  | @snoc y z moves m _ hm ih =>
      obtain ⟨hfirst, hlast⟩ := List.forall_mem_append.1 hmoves
      obtain ⟨hbusy', hblank', hcount⟩ := ih hfirst
      have hbackground := hlast m (List.mem_singleton.2 rfl)
      have hinHand : ∀ r ∈ y.stage.inHand, r.isBlank = false :=
        fun r hr => hblank' r (List.mem_append_left _ hr)
      refine ⟨hbusy'.step hm hbackground hinHand, ?_, ?_⟩
      · intro r hr
        exact hblank' r (hm.requests_subset hbackground hr)
      · rcases hcount with hevents | hcount
        · -- an event that was there is there still
          refine .inl fun hnil => hevents ?_
          have hprefix := hm.events_prefix hbackground
          rwa [hnil, List.prefix_nil] at hprefix
        · refine (untilEvent_step hbusy' hm hbackground hinHand).imp_right fun hstep => ?_
          rw [List.countP_append, List.countP_singleton]
          omega

end Waiting

namespace Steady

variable {s : Session} {lines : List String} {moves : List Move} {x : Moment}

/-- **Where the accepted requests are**: events have answered the first ones, and the worker has the
others in hand or in the queue. -/
theorem accepted_eq (h : Steady s lines moves x) :
    accepted (inner moves) =
      (collected (inner moves) ++ x.console.dispatcher.events).filterMap Event.request? ++
        (x.stage.inHand ++ x.console.dispatcher.queue) := by
  have hnotBlank : ∀ r ∈ (rounds (inner moves)).filterMap Round.request?,
      (!r.isBlank) = true := by
    intro r hr
    rw [isBlank_of_mem_requestsOf r (h.mem_requestsOf_of_handled hr)]
    rfl
  have hanswered := h.serial.answered
  rw [List.filter_eq_self.2 hnotBlank] at hanswered
  rw [h.serial.requests, ← hanswered, List.append_assoc]
  rfl

/-- So they are as many as the events so far that do not tell of expiry, and the requests that the
worker has in hand or in the queue. -/
theorem length_accepted (h : Steady s lines moves x) :
    (accepted (inner moves)).length =
      (collected (inner moves) ++ x.console.dispatcher.events).countP (fun e => !e.isExpiry) +
        (x.stage.inHand ++ x.console.dispatcher.queue).length := by
  have hanswers : (fun e : Event => e.request?.isSome) = fun e => !e.isExpiry :=
    funext Event.isSome_request?
  rw [h.accepted_eq, List.length_append, List.length_filterMap_eq_countP, hanswers]

/-- **The event that the console waits for comes**, after six moves of the worker at most, and the
worker is able to make them. -/
theorem event_comes (h : Steady s lines moves x) (hphase : x.phase = .draining)
    {moves' : List Dispatcher.Move} {y : Dispatcher.Moment} (hrun : Dispatcher.Run x.inner moves' y)
    (hmoves : ∀ m ∈ moves', m.background = true) :
    (y.dispatcher.events = [] → ∃ m z, m.byWorker = true ∧ Dispatcher.Step y m z) ∧
      (6 ≤ moves'.countP Dispatcher.Move.byWorker → y.dispatcher.events ≠ []) := by
  obtain ⟨-, hbusy⟩ := h.busy_of_draining hphase
  have hcount := (untilEvent_run hbusy h.isBlank_of_mem hrun hmoves).2.2
  constructor
  · intro hevents
    -- the console goes on waiting meanwhile
    have hy := (run_background hrun hmoves).steady h h.fault
    obtain ⟨haccepting, hbusy'⟩ := hy.busy_of_draining hphase
    have hready := hbusy'.ready hevents
    obtain ⟨m, z, hm, -, hstep⟩ :=
      Dispatcher.exists_step_of_ready (hy.running_of_accepting haccepting) hready
    exact ⟨m, z, hm, hstep⟩
  · intro hsix hevents
    have hle := hcount.resolve_left fun hne => hne hevents
    have hpos := y.stage.untilEvent_pos
    have hstart := x.inner.stage.untilEvent_le
    omega

end Steady

/-! ### What is printed and recorded -/

/-- The lines that a move prints. -/
def Move.printed : Move → List String
  | read line =>
    match Input.ofLine line with
    | .rejected reason => [reason]
    | .request _ | .skip | .quit => []
  | take e => e.lines
  | endInput | accept _ | refuse _ _ | close | join | confirm | lose | background _ => []

/-- Events are recorded one after another. -/
def recordAll (settings : Settings) : List Event → Transfer Writer Unit
  | [] => pure ()
  | e :: es => do
    record settings e
    recordAll settings es

theorem recordAll_concat {settings : Settings} {es : List Event} {e : Event} {w w₁ w₂ : Writer}
    (h : recordAll settings es w = (.ok (), w₁)) (he : record settings e w₁ = (.ok (), w₂)) :
    recordAll settings (es ++ [e]) w = (.ok (), w₂) := by
  induction es generalizing w with
  | nil =>
      obtain rfl : w = w₁ := (Prod.mk.inj h).2
      exact Transfer.bind_of_ok he
  | cons e' es ih =>
      obtain ⟨⟨⟩, w', hfirst, hrest⟩ := Transfer.bind_eq_ok h
      rw [List.cons_append, recordAll, Transfer.bind_of_ok hfirst]
      exact ih hrest

/-- Handling an event is printing it, and then recording it if there is a recording. -/
theorem handleEvent_of_fault {c : Console} {e : Event} (h : (c.handleEvent e).fault = none) :
    (c.handleEvent e).printed = c.printed ++ e.lines ∧
      (c.recorder = none → (c.handleEvent e).recorder = none) ∧
      ∀ w ∈ c.recorder, ∃ w' ∈ (c.handleEvent e).recorder,
        record c.dispatcher.session.settings e w = (.ok (), w') := by
  have hfault := fault_of_handleEvent h
  obtain ⟨dispatcher, recorder, waiting, reading, printed, fault⟩ := c
  dsimp only at hfault
  subst hfault
  cases recorder with
  | none => exact ⟨rfl, fun _ => rfl, fun w hw => nomatch hw⟩
  | some w =>
      cases hrecord : record dispatcher.session.settings e w with
      | mk result w' =>
          cases result with
          | error fault => simp [handleEvent, print, hrecord] at h
          | ok => simp [handleEvent, print, hrecord]

/-- What was printed and recorded is what the moves brought, if the console has started with the
session `s` and with this recording. -/
structure Handled (s : Session) (recorder : Option Writer) (moves : List Move) (x : Moment) :
    Prop where
  printed : x.console.printed.toList = moves.flatMap Move.printed
  unrecorded : recorder = none → x.console.recorder = none
  /-- The events taken so far were recorded one after another, and nothing went wrong. -/
  recorded : ∀ w ∈ recorder, ∃ w' ∈ x.console.recorder,
    recordAll s.settings (collected (inner moves)) w = (.ok (), w')

namespace Handled

variable {s : Session} {recorder : Option Writer} {lines : List String} {moves : List Move}
  {x y : Moment}

/-- Moves that take no event. -/
theorem quiet (h : Handled s recorder moves x) {m : Move}
    (hcollected : collected m.inner = [])
    (hprinted : y.console.printed.toList = x.console.printed.toList ++ m.printed)
    (hrecorder : y.console.recorder = x.console.recorder) :
    Handled s recorder (moves ++ [m]) y where
  printed := by rw [hprinted, h.printed, List.flatMap_append, List.flatMap_singleton]
  unrecorded := by
    rw [hrecorder]
    exact h.unrecorded
  recorded := by
    rw [hrecorder, inner_concat, Dispatcher.collected_append, hcollected, List.append_nil]
    exact h.recorded

/-- An event is taken. -/
theorem take (h : Handled s recorder moves x) {e : Event} {d : Dispatcher} {next : Phase}
    (hsettings : x.console.dispatcher.session.settings = s.settings)
    (htake : x.console.dispatcher.take? = some (e, d))
    (hfault : x.console.takeEvent.fault = none) :
    Handled s recorder (moves ++ [.take e])
      { x with
        console := x.console.takeEvent
        phase := x.console.takeEvent.phaseUnlessFault next } := by
  have htaken := takeEvent_of_some htake
  rw [htaken] at hfault
  obtain ⟨es, -, rfl⟩ := Dispatcher.take?_eq_some_iff.1 htake
  obtain ⟨hprinted, hunrecorded, hrecorded⟩ := handleEvent_of_fault hfault
  rw [htaken]
  refine ⟨?_, fun hnone => hunrecorded (h.unrecorded hnone), ?_⟩
  · rw [hprinted, List.flatMap_append, ← h.printed, List.flatMap_singleton]
    simp [Move.printed]
  · intro w hw
    obtain ⟨w₁, hw₁, hbefore⟩ := h.recorded w hw
    obtain ⟨w₂, hw₂, hlast⟩ := hrecorded w₁ hw₁
    refine ⟨w₂, hw₂, ?_⟩
    rw [hsettings] at hlast
    have hcollected : collected (inner (moves ++ [.take e])) = collected (inner moves) ++ [e] := by
      rw [inner_concat]
      exact Dispatcher.collected_concat _ _
    rw [hcollected]
    exact recordAll_concat hbefore hlast

/-- **Every move handles its event**, if it has one, unless something goes wrong with the
recording. -/
theorem step (h : Handled s recorder moves x) (hx : Steady s lines moves x) {m : Move}
    (hm : Step x m y) (hfault : y.console.fault = none) :
    Handled s recorder (moves ++ [m]) y := by
  have hnothing : x.console.printed.toList = x.console.printed.toList ++ [] :=
    (List.append_nil _).symm
  cases hm with
  | @read line rest hphase hinput =>
      have hin := hx.inPhase
      rw [Moment.InPhase, hphase] at hin
      have hread := readLine_eq hin.1 hin.2.1 hx.fault line
      refine h.quiet rfl ?_ (recorder_readLine _ _)
      dsimp only
      rw [hread, Move.printed]
      cases Input.ofLine line with
      | request r => exact hnothing
      | skip => exact hnothing
      | quit => exact hnothing
      | rejected reason => simp [print]
  | take hphase htake => exact h.take hx.settings htake hfault
  | confirm hphase hevents =>
      have hsame := confirm_of_fault hfault
      refine h.quiet rfl ?_ (congrArg Console.recorder hsame)
      dsimp only
      rw [hsame]
      exact hnothing
  | background hm hstep =>
      obtain ⟨-, -, -, -, hcollected⟩ := accepting_of_background hstep hm
      exact h.quiet hcollected hnothing rfl
  | endInput | accept | refuse | close | join | lose => exact h.quiet rfl hnothing rfl

theorem start (s : Session) (capacity : Nat) (recorder : Option Writer) (lines : List String)
    (clock : Nat) :
    Handled s recorder []
      (.start { dispatcher := .ofSession s capacity, recorder := recorder } lines clock) where
  printed := rfl
  unrecorded := id
  recorded w hw := ⟨w, hw, rfl⟩

end Handled

/-- **Every run handles its events**, unless something goes wrong with the recording. -/
theorem Run.handled {s : Session} {recorder : Option Writer} {lines : List String} {x y : Moment}
    {moves moves' : List Move} (h : Run x moves' y) (hx : Steady s lines moves x)
    (hhandled : Handled s recorder moves x) (hfault : y.console.fault = none) :
    Handled s recorder (moves ++ moves') y := by
  induction h with
  | refl => rwa [List.append_nil]
  | snoc hrun hm ih =>
      have hbefore := hm.fault_eq_none hfault
      rw [← List.append_assoc]
      exact (ih hbefore).step (hrun.steady hx hbefore) hm hfault

/-! ### All interleavings -/

/-- **The console never waits for an event that cannot come.**  Exactly the lines are skipped that a
session would not answer.  Therefore, after any moves of console, worker and clock on any lines,
from a console just started with or without a recording, as long as nothing has gone wrong with it:

* the events taken and those that wait are what the worker has told, in order;
* the accepted requests are those that these events answer, then those that the worker has in hand
  and in the queue, and as many;
* each of the latter is going to be answered by one event, whatever is done to the session before;
* a request is only refused if the queue is full, and then there is one in the queue;
* while the console waits for an event, six moves of the worker are enough to bring one, and until
  then there is a move for it;
* every event taken was printed and recorded, once and in order;
* the console is never stuck before its end, and then all that was told was taken, also what was
  left when the worker stopped, and every request of the lines was accepted. -/
theorem never_waits_in_vain {s : Session} {capacity t : Nat} {recorder : Option Writer}
    {lines : List String} {moves : List Move} {x : Moment}
    (h : Run (.start { dispatcher := .ofSession s capacity, recorder := recorder } lines t) moves x)
    (hfault : x.console.fault = none) :
    (∀ (line : String) (s' : Session) (now : Nat),
      Input.ofLine line = .skip ↔ (s'.submit line now).2 = none) ∧
    collected (inner moves) ++ x.console.dispatcher.events ++
        x.console.dispatcher.session.eventsOf x.stage.owed =
      s.eventsOf (operations (inner moves)) ∧
    accepted (inner moves) =
      (collected (inner moves) ++ x.console.dispatcher.events).filterMap Event.request? ++
        (x.stage.inHand ++ x.console.dispatcher.queue) ∧
    (accepted (inner moves)).length =
      (collected (inner moves) ++ x.console.dispatcher.events).countP (fun e => !e.isExpiry) +
        (x.stage.inHand ++ x.console.dispatcher.queue).length ∧
    (∀ r ∈ x.stage.inHand ++ x.console.dispatcher.queue, ∀ (s' : Session) (now : Nat),
      ∃ e, (s'.handle r now).2 = some e ∧ e.request? = some r) ∧
    (∀ r why y, Step x (.refuse r why) y → why = .full ∧ x.console.dispatcher.queue ≠ []) ∧
    (x.phase = .draining → ∀ moves' y, Dispatcher.Run x.inner moves' y →
      (∀ m ∈ moves', m.background = true) →
      (y.dispatcher.events = [] → ∃ m z, m.byWorker = true ∧ Dispatcher.Step y m z) ∧
      (6 ≤ moves'.countP Dispatcher.Move.byWorker → y.dispatcher.events ≠ [])) ∧
    Handled s recorder moves x ∧
    (x.phase ≠ .ended → ∃ m y, m.passesTime = false ∧ Step x m y) ∧
    (x.phase = .ended →
      x.console.dispatcher.running = false ∧ x.console.dispatcher.events = [] ∧
      collected (inner moves) = s.eventsOf (operations (inner moves)) ∧
      accepted (inner moves) = requestsOf lines) := by
  have hstart := Steady.start s capacity recorder lines t
  have hx := h.steady hstart hfault
  have hhandled := h.handled hstart (.start s capacity recorder lines t) hfault
  refine ⟨?_, hx.serial.events, hx.accepted_eq, hx.length_accepted, ?_, ?_, ?_, hhandled,
    hx.exists_step, ?_⟩
  · intro line s' now
    exact Input.ofLine_eq_skip_iff_submit
  · intro r hr s' now
    exact exists_handle_eq_some s' (hx.isBlank_of_mem r hr) now
  · intro r why y hrefuse
    cases hrefuse with
    | refuse hphase hwaiting hsend => exact hx.full_of_send hphase hsend
  · intro hphase moves' y hrun hmoves
    exact hx.event_comes hphase hrun hmoves
  · intro hended
    obtain ⟨hrunning, hevents, -, hcollected, haccepted, -⟩ := hx.complete_of_ended hended
    exact ⟨hrunning, hevents, hcollected, haccepted⟩

/-- A queue for one request.  The second request is refused because the first one waits there, and
the event of the second one is left when the worker stops. -/
def pressing : List Move :=
  [.read ":dismiss 7", .accept (.dismiss 7), .read " ", .read ":reset", .refuse .reset .full,
    .background (.receive (.dismiss 7)), .background (.look 0),
    .background (.handle ⟨some (.dismiss 7), 0⟩), .take (.dismissed 7 false), .accept .reset,
    .endInput, .close, .background .clear, .background (.receive .reset), .background (.look 0),
    .background (.handle ⟨some .reset, 0⟩), .background .clear, .background .stop, .join,
    .take (.reset 1), .confirm]

theorem run_pressing : ∃ x,
    Run (.start { dispatcher := .ofSession (.fresh {}) 1, recorder := some { sink := {} } }
      [":dismiss 7", " ", ":reset"] 0) pressing x ∧
    x.phase = .ended ∧ x.console.fault = none :=
  ⟨_,
    .cons (.read rfl rfl) <| .cons (.accept rfl rfl rfl) <| .cons (.read rfl rfl) <|
    .cons (.read rfl rfl) <| .cons (.refuse rfl rfl rfl) <|
    .cons (.background rfl (.receive rfl rfl rfl)) <| .cons (.background rfl (.look rfl rfl)) <|
    .cons (.background rfl (.handle rfl rfl)) <| .cons (.take rfl rfl) <|
    .cons (.accept rfl rfl rfl) <| .cons (.endInput rfl rfl) <| .cons (.close rfl) <|
    .cons (.background rfl (.clear rfl rfl)) <| .cons (.background rfl (.receive rfl rfl rfl)) <|
    .cons (.background rfl (.look rfl rfl)) <| .cons (.background rfl (.handle rfl rfl)) <|
    .cons (.background rfl (.clear rfl rfl)) <| .cons (.background rfl (.stop rfl rfl rfl rfl)) <|
    .cons (.join rfl rfl) <| .cons (.take rfl rfl) <| .single (.confirm rfl rfl), rfl, rfl⟩

/-- The console of `TorusRobot.Console.pressing` takes both events that the worker tells, and both
are printed. -/
theorem never_waits_in_vain_pressing : ∃ x,
    Run (.start { dispatcher := .ofSession (.fresh {}) 1, recorder := some { sink := {} } }
      [":dismiss 7", " ", ":reset"] 0) pressing x ∧
    x.console.fault = none ∧
    collected (inner pressing) =
      (Session.fresh {}).eventsOf [.dismiss 7, .expire 0, .reset 0, .expire 0] ∧
    accepted (inner pressing) = requestsOf [":dismiss 7", " ", ":reset"] ∧
    x.console.printed.toList =
      ["(#7 not active)", "[info] SYSTEM_RESET: State cleared. (#1)"] := by
  obtain ⟨x, hx, hended, hfault⟩ := run_pressing
  obtain ⟨-, -, -, -, -, -, -, hhandled, -, hend⟩ := never_waits_in_vain hx hfault
  obtain ⟨-, -, hcollected, haccepted⟩ := hend hended
  refine ⟨x, hx, hfault, hcollected, haccepted, ?_⟩
  rw [hhandled.printed]
  decide +kernel

end Console

end TorusRobot
