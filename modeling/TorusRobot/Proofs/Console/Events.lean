/-
**What events tell of a session.**

The console records a session that it does not see: all it has are the events.  These tell enough.
An event of a line holds the world behind it, and behind a reset the world is the empty one of the
grid, so that the entries made from the events are the entries that the session itself would make.

Main definitions:

* `TorusRobot.Event.entry?` — the entry that the console makes of an event;
* `TorusRobot.Request.isRecorded` — the requests that are recorded;
* `TorusRobot.Recording.Action.request`, `TorusRobot.Recording.Entry.request` — the requests of
  actions and of entries.

Main results:

* `TorusRobot.Session.filterMap_entry?_eventsOf` — **the entries are those of the session**;
* `TorusRobot.Event.map_request_filterMap_entry?` — and they are made of the requests answered;
* `TorusRobot.Session.counts_run` — they tell how many commands and resets there were;
* `TorusRobot.Console.handleEvent_of_fits` — what handling an event does.
-/
import TorusRobot.Console.Basic
import TorusRobot.Proofs.Dispatch.Rounds
import TorusRobot.Proofs.Replay.Recorded
import TorusRobot.Proofs.Session.Worlds

set_option relaxedAutoImplicit false
set_option autoImplicit false

namespace TorusRobot

open Recording Session

/-! ### Entries made from events -/

/-- The entry that the console makes of an event of a session under the given settings. -/
def Event.entry? (settings : Settings) : Event → Option Entry
  | applied line outcome world _ => some ⟨.command line outcome.status, world⟩
  | reset _ => some ⟨.reset, { side := settings.side }⟩
  | dismissed _ _ | expired _ => none

/-- Whether a request is recorded. -/
def Request.isRecorded : Request → Bool
  | submit _ | reset => true
  | dismiss _ => false

/-- Whether a request is a line. -/
def Request.isLine : Request → Bool
  | submit _ => true
  | reset | dismiss _ => false

/-- The request that an action was recorded of. -/
def Recording.Action.request : Action → Request
  | .command line _ => .submit line
  | .reset => .reset

/-- The request that an entry is made of. -/
def Recording.Entry.request (entry : Entry) : Request := entry.action.request

namespace Session

/-- What the console makes of an event is what the session makes of the operation. -/
theorem bind_entry?_event? {s : Session} (hside : s.world.side = s.settings.side)
    (op : Operation) : (s.event? op).bind (Event.entry? s.settings) = Replay.entryOf? s op := by
  cases op with
  | submit line now =>
      rw [event?_submit, Replay.entryOf?, Replay.recordOf?, perform_submit]
      cases (s.submit line now).2 <;> rfl
  | reset now =>
      have hworld : (s.reset now).1.world = { side := s.settings.side } := by
        rw [world_reset, World.cleared, hside]
      rw [Replay.entryOf?, Replay.recordOf?, perform_reset, Option.map_some, hworld]
      rfl
  | dismiss id => rfl
  | expire now =>
      rw [event?_expire, expiry?, Replay.entryOf?, Replay.recordOf?]
      split <;> rfl

/-- **The entries made from the events are those of the session.** -/
theorem filterMap_entry?_eventsOf {s : Session} (h : World.Reachable s.settings.side s.world)
    (ops : List Operation) :
    (s.eventsOf ops).filterMap (Event.entry? s.settings) = Replay.entriesOf s ops := by
  induction ops generalizing s with
  | nil => rfl
  | cons op ops ih =>
      have hside : s.world.side = s.settings.side := h.sound.1
      have hnext := reachable_perform h op
      rw [← settings_perform s op] at hnext
      have hrest := ih hnext
      rw [settings_perform] at hrest
      rw [eventsOf, Replay.entriesOf, List.filterMap_append, hrest, ← bind_entry?_event? hside]
      cases s.event? op with
      | none => rfl
      | some e => cases he : e.entry? s.settings <;> simp [he]

end Session

/-! ### Requests and counts -/

/-- An event answers the request that its entry is made of. -/
theorem Event.map_request_entry? (settings : Settings) (e : Event) :
    (e.entry? settings).map Entry.request = e.request?.filter Request.isRecorded := by
  cases e with
  | applied line outcome world notice => rfl
  | reset notice => rfl
  | dismissed id removed => rfl
  | expired ids => rfl

/-- **The entries are made of the requests answered**, except those that are not recorded. -/
theorem Event.map_request_filterMap_entry? (settings : Settings) (es : List Event) :
    (es.filterMap (Event.entry? settings)).map Entry.request =
      (es.filterMap Event.request?).filter Request.isRecorded := by
  rw [List.map_filterMap, List.filter_filterMap]
  congr 1
  funext e
  exact e.map_request_entry? settings

namespace Session

/-- An operation counts as what its entry is made of, and without an entry as nothing. -/
theorem counts_perform (s : Session) (op : Operation) :
    (s.perform op).1.tally.commands =
        s.tally.commands + ((Replay.entryOf? s op).toList.map Entry.request).countP Request.isLine ∧
      (s.perform op).1.tally.resets =
        s.tally.resets + ((Replay.entryOf? s op).toList.map Entry.request).count .reset := by
  cases op with
  | submit line now =>
      rw [perform_submit, commands_submit, resets_submit, Replay.entryOf?, Replay.recordOf?]
      cases (s.submit line now).2 with
      | none => exact ⟨rfl, rfl⟩
      | some o => exact ⟨rfl, rfl⟩
  | reset now => exact ⟨rfl, rfl⟩
  | dismiss id => exact ⟨rfl, rfl⟩
  | expire now => exact ⟨rfl, rfl⟩

/-- **The entries tell how many commands and resets there were.** -/
theorem counts_run (s : Session) (ops : List Operation) :
    (s.run ops).tally.commands =
        s.tally.commands + ((Replay.entriesOf s ops).map Entry.request).countP Request.isLine ∧
      (s.run ops).tally.resets =
        s.tally.resets + ((Replay.entriesOf s ops).map Entry.request).count .reset := by
  induction ops generalizing s with
  | nil => exact ⟨rfl, rfl⟩
  | cons op ops ih =>
      obtain ⟨hcommands, hresets⟩ := counts_perform s op
      obtain ⟨hcommands', hresets'⟩ := ih (s.perform op).1
      rw [run_cons, Replay.entriesOf, List.map_append, List.countP_append, List.count_append]
      omega

end Session

/-! ### Handling events -/

namespace Console

/-- Recording an event is recording its entry, if it has one. -/
theorem record_eq (settings : Settings) (e : Event) (w : Writer) :
    record settings e w =
      match e.entry? settings with
      | some entry => Writer.record entry.action entry.world w
      | none => (.ok (), w) := by
  cases e with
  | applied line outcome world notice => rfl
  | reset notice => rfl
  | dismissed id removed => rfl
  | expired ids => rfl

/-- **What handling an event does**, where there is room for its entry: it is printed, and its frame
is added. -/
theorem handleEvent_of_fits {c : Console} {w : Writer} {e : Event} (hfault : c.fault = none)
    (hrecorder : c.recorder = some w) (hroom : w.sink.room = none)
    (hfits : ∀ entry, e.entry? c.dispatcher.session.settings = some entry → entry.Fits) :
    c.handleEvent e =
      { c.print e.lines with
        recorder := some (w.extend (Writer.framesBehind w.framesWritten
          (e.entry? c.dispatcher.session.settings).toList)) } := by
  have hrecord : record c.dispatcher.session.settings e w =
      (.ok (), w.extend (Writer.framesBehind w.framesWritten
        (e.entry? c.dispatcher.session.settings).toList)) := by
    rw [record_eq]
    cases he : e.entry? c.dispatcher.session.settings with
    | none => rw [Option.toList_none, Writer.framesBehind, Writer.extend_nil]
    | some entry => exact Writer.record_of_fits hroom (hfits entry he)
  simp only [handleEvent, hfault, Option.isSome_none, print, hrecorder, hrecord]
  rfl

end Console

end TorusRobot
