/-
**What the console records.**

The recording holds one frame for every event taken so far that has an entry.  Every move keeps it
so, and nothing goes wrong on the way, if the writer does not fail and no line is too long.
Therefore at the end the recording is that of the session, and its frames are made of the requests
of all the lines.

Main definitions:

* `TorusRobot.Console.Recordable` — what a recording needs for nothing to go wrong;
* `TorusRobot.Console.Faithful` — what holds between any two moves.

Main results:

* `TorusRobot.Console.Faithful.step`, `TorusRobot.Console.Run.faithful` — **every move, and every
  run, keeps it so**;
* `TorusRobot.Console.Faithful.recorder_of_ended` — **at the end the recording is that of the
  session**.
-/
import TorusRobot.Proofs.Console.Events
import TorusRobot.Proofs.Console.Steady

set_option relaxedAutoImplicit false
set_option autoImplicit false

namespace TorusRobot

namespace Console

open Recording
open Dispatcher (accepted collected operations rounds)

/-! ### What holds between any two moves -/

/-- What a recording needs for nothing to go wrong: a writer that has just started and does not
fail, and lines that are not too long. -/
structure Recordable (w : Writer) (lines : List String) : Prop where
  room : w.sink.room = none
  count : w.framesWritten = 0
  flush : w.sink.flushFails = false
  text : ∀ line, Request.submit line ∈ requestsOf lines → TextFits line

/-- What holds between any two moves, if the console has started with the session `s` and with the
writer `w`, and the lines are these. -/
structure Faithful (s : Session) (w : Writer) (lines : List String) (moves : List Move)
    (x : Moment) : Prop where
  serial : Dispatcher.Serial s (inner moves) x.inner
  /-- No request is lost, and none comes out of turn. -/
  requests : accepted (inner moves) ++ (x.console.waiting.toList ++ x.ahead) = requestsOf lines
  /-- The events taken so far are recorded, and nothing else. -/
  recorder : x.console.recorder = some (w.extend (Writer.framesBehind 0
    ((collected (inner moves)).filterMap (Event.entry? s.settings))))
  fault : x.console.fault = none
  capacity : 0 < x.console.dispatcher.capacity
  inPhase : x.InPhase

namespace Faithful

variable {s : Session} {w : Writer} {lines : List String} {moves : List Move} {x y : Moment}

/-! ### What follows from it -/

theorem steady (h : Faithful s w lines moves x) : Steady s lines moves x :=
  ⟨h.serial, h.requests, h.fault, h.capacity, h.inPhase⟩

/-- No line is too long for what is done to the session, if none is too long to be recorded. -/
theorem operationFits (h : Faithful s w lines moves x) (hw : Recordable w lines) :
    ∀ op ∈ operations (inner moves), Replay.OperationFits op := by
  intro op hop
  obtain ⟨round, hround, hop⟩ := List.mem_flatMap.1 hop
  rcases List.mem_append.1 hop with hasked | hexpire
  · obtain ⟨r, hr, rfl⟩ := Option.map_eq_some_iff.1 (Option.mem_toList.1 hasked)
    have hmem := h.steady.mem_requestsOf_of_handled (List.mem_filterMap.2 ⟨round, hround, hr⟩)
    cases r with
    | submit line => exact hw.text line hmem
    | reset => trivial
    | dismiss id => trivial
  · obtain rfl := List.mem_singleton.1 hexpire
    trivial

/-- An entry made of an event that is there is made of a request of the lines. -/
theorem request_mem_requestsOf (h : Faithful s w lines moves x) {e : Event} {entry : Entry}
    (he : e ∈ x.console.dispatcher.events) (hentry : e.entry? s.settings = some entry) :
    entry.request ∈ requestsOf lines := by
  have hrequest : e.request? = some entry.request := by
    have hmap := e.map_request_entry? s.settings
    rw [hentry, Option.map_some, eq_comm, Option.filter_eq_some_iff] at hmap
    exact hmap.1
  have hanswered : entry.request ∈
      (collected (inner moves) ++ x.inner.dispatcher.events).filterMap Event.request? :=
    List.mem_filterMap.2 ⟨e, List.mem_append_right _ he, hrequest⟩
  rw [h.serial.answered] at hanswered
  exact h.steady.mem_requestsOf_of_handled (List.mem_of_mem_filter hanswered)

/-- So it fits, if every line does. -/
theorem fits (h : Faithful s w lines moves x) (hw : Recordable w lines) {e : Event} {entry : Entry}
    (he : e ∈ x.console.dispatcher.events) (hentry : e.entry? s.settings = some entry) :
    entry.Fits := by
  have hmem := h.request_mem_requestsOf he hentry
  cases ha : entry.action with
  | reset => exact Entry.fits_of_reset ha
  | command line status =>
      rw [Entry.request, ha] at hmem
      exact (Entry.fits_of_command ha).2 (hw.text line hmem)

/-! ### One move -/

/-- An event is taken, and recorded. -/
theorem take (h : Faithful s w lines moves x) (hw : Recordable w lines) {e : Event} {d : Dispatcher}
    (htake : x.console.dispatcher.take? = some (e, d)) :
    x.console.takeEvent.recorder = some (w.extend (Writer.framesBehind 0
        ((collected (inner moves ++ [.collect e])).filterMap (Event.entry? s.settings)))) ∧
      x.console.takeEvent.fault = none := by
  obtain ⟨es, hes, rfl⟩ := Dispatcher.take?_eq_some_iff.1 htake
  have hmem : e ∈ x.console.dispatcher.events := by
    rw [hes]
    exact List.mem_cons_self
  have hsettings := h.steady.settings
  -- the console after the event, whose frame has been added to those before
  let entries := (collected (inner moves)).filterMap (Event.entry? s.settings)
  let c : Console := { x.console with dispatcher := { x.console.dispatcher with events := es } }
  have hfits : ∀ entry, e.entry? c.dispatcher.session.settings = some entry → entry.Fits := by
    intro entry hentry
    rw [hsettings] at hentry
    exact h.fits hw hmem hentry
  have hhandle := @handleEvent_of_fits c _ e h.fault h.recorder hw.room hfits
  have hnumber : (w.extend (Writer.framesBehind 0 entries)).framesWritten = 0 + entries.length := by
    rw [Writer.extend, Writer.length_framesBehind, hw.count]
  have hentries : (collected (inner moves ++ [.collect e])).filterMap (Event.entry? s.settings) =
      entries ++ (e.entry? s.settings).toList := by
    have hlast : [e].filterMap (Event.entry? s.settings) = (e.entry? s.settings).toList := by
      cases he : e.entry? s.settings <;> simp [he]
    rw [Dispatcher.collected_concat, List.filterMap_append, ← hlast]
    rfl
  rw [hsettings, hnumber, ← Writer.extend_append, ← Writer.framesBehind_append, ← hentries]
    at hhandle
  rw [takeEvent_of_some htake, hhandle]
  exact ⟨rfl, h.fault⟩

/-- Confirming what was recorded changes nothing, unless it fails. -/
theorem confirm_eq {c : Console} {w : Writer} (hfault : c.fault = none)
    (hrecorder : c.recorder = some w) (hflush : w.sink.flushFails = false) : c.confirm = c := by
  have hw : w.flush = (.ok (), w) := by simp [Writer.flush, Sink.flush, hflush]
  cases c
  cases hfault
  cases hrecorder
  simp only [confirm, hw]

/-- Apart from taking an event, no move adds to the recording, and nothing goes wrong with it. -/
theorem recorder_step (h : Faithful s w lines moves x) (hw : Recordable w lines) {m : Move}
    (hm : Step x m y) :
    y.console.recorder = some (w.extend (Writer.framesBehind 0
        ((collected (inner (moves ++ [m]))).filterMap (Event.entry? s.settings)))) ∧
      y.console.fault = none := by
  have hother (hcollected : collected m.inner = [])
      (hrecorder : y.console.recorder = x.console.recorder)
      (hfault : y.console.fault = x.console.fault) :
      y.console.recorder = some (w.extend (Writer.framesBehind 0
          ((collected (inner moves ++ m.inner)).filterMap (Event.entry? s.settings)))) ∧
        y.console.fault = none := by
    rw [hrecorder, hfault, Dispatcher.collected_append, hcollected, List.append_nil]
    exact ⟨h.recorder, h.fault⟩
  rw [inner_concat]
  cases hm with
  | read hphase hinput => exact hother rfl (recorder_readLine _ _) (fault_readLine _ _)
  | take hphase htake => exact h.take hw htake
  | confirm hphase hevents =>
      have hsame := confirm_eq h.fault h.recorder hw.flush
      exact hother rfl (congrArg Console.recorder hsame) (congrArg Console.fault hsame)
  | background hm hstep =>
      obtain ⟨-, -, -, -, hcollected⟩ := accepting_of_background hstep hm
      exact hother hcollected rfl rfl
  | endInput | accept | refuse | close | join | lose => exact hother rfl rfl rfl

/-- **Every move keeps it so.** -/
theorem step (h : Faithful s w lines moves x) (hw : Recordable w lines) {m : Move}
    (hm : Step x m y) : Faithful s w lines (moves ++ [m]) y := by
  obtain ⟨hrecorder, hfault⟩ := h.recorder_step hw hm
  have hsteady := h.steady.step hm hfault
  exact ⟨hsteady.serial, hsteady.requests, hrecorder, hfault, hsteady.capacity, hsteady.inPhase⟩

/-- **The console is never stuck before its end.** -/
theorem exists_step (h : Faithful s w lines moves x) (hne : x.phase ≠ .ended) :
    ∃ m y, m.passesTime = false ∧ Step x m y :=
  h.steady.exists_step hne

/-! ### The end -/

/-- **At the end the recording is that of the session**, and the frames are made of the requests of
all lines. -/
theorem recorder_of_ended (h : Faithful s w lines moves x)
    (hworld : World.Reachable s.settings.side s.world) (hphase : x.phase = .ended) :
    x.console.recorder = some (w.extend (Replay.framesOf s 0 (operations (inner moves)))) ∧
      x.console.dispatcher.session = s.run (operations (inner moves)) ∧
      (Replay.entriesOf s (operations (inner moves))).map Entry.request =
        (requestsOf lines).filter Request.isRecorded := by
  obtain ⟨-, -, hsession, hcollected, -, hhandled⟩ := h.steady.complete_of_ended hphase
  have hentries := Session.filterMap_entry?_eventsOf hworld (operations (inner moves))
  refine ⟨?_, hsession, ?_⟩
  · rw [h.recorder, hcollected, hentries, Replay.framesOf_eq]
  · have hnotBlank : ∀ r ∈ requestsOf lines, (!r.isBlank) = true := by
      intro r hr
      rw [isBlank_of_mem_requestsOf r hr]
      rfl
    rw [← hentries, Event.map_request_filterMap_entry?, operations, Session.answered_eventsOf,
      hhandled, List.filter_eq_self.2 hnotBlank]

end Faithful

/-! ### Whole runs -/

/-- A console that has just been started, and its recording too. -/
theorem Faithful.start {s : Session} {w : Writer} {c : Console}
    (hc : c = { dispatcher := .ofSession s Dispatcher.defaultCapacity, recorder := some w })
    (lines : List String) (clock : Nat) :
    Faithful s w lines [] (Moment.start c lines clock) := by
  subst hc
  have hsteady := Steady.start s Dispatcher.defaultCapacity (some w) lines clock
  have hrecorder : some w = some (w.extend (Writer.framesBehind 0 [])) :=
    congrArg some (Writer.extend_nil w).symm
  exact ⟨hsteady.serial, hsteady.requests, hrecorder, hsteady.fault, hsteady.capacity,
    hsteady.inPhase⟩

/-- **Every run keeps it so.** -/
theorem Run.faithful {s : Session} {w : Writer} {lines : List String} {x y : Moment}
    {moves moves' : List Move} (h : Run x moves' y) (hx : Faithful s w lines moves x)
    (hw : Recordable w lines) : Faithful s w lines (moves ++ moves') y := by
  induction h with
  | refl => rwa [List.append_nil]
  | snoc _ hm ih =>
      rw [← List.append_assoc]
      exact ih.step hw hm

end Console

end TorusRobot
