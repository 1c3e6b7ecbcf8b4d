/-
**What callers are told of expiry.**

In every round the worker carries out a request and then takes away what is due, at one reading of
the clock.  What it tells of this is in order however callers, clock and worker interleave: a number
is told to be gone at most once and only after it was announced, not before its deadline, and no
notice outlives the round in which it is due.  A worker that woke up because a deadline had come
always has something to tell, so it does not wake up over and over.

Main definitions:

* `TorusRobot.Event.removed`, `TorusRobot.Event.announced?`, `TorusRobot.Event.Announces` — the
  numbers that an event tells to be gone, and the number that it announces;
* `TorusRobot.Session.after`, `TorusRobot.Session.toldIn` — the session after some rounds, and what
  is told in a round;
* `TorusRobot.Session.Timely` — that what is told of expiry is in order.

Main results:

* `TorusRobot.Session.removed_eventsOf`, `TorusRobot.Session.announced_eventsOf` — what is told to
  be gone has gone, and what is announced has come;
* `TorusRobot.Session.origin_of_active` — every notice on show was announced in a round before;
* `TorusRobot.Session.timely` — what is told of expiry is in order, whatever the rounds;
* `TorusRobot.Dispatcher.Run.awaited` — a worker without a request had a deadline to wait for;
* `TorusRobot.Dispatcher.expiry_is_timely` — every run of the worker.
-/
import Mathlib.Data.List.Induction
import TorusRobot.Proofs.Dispatch.Interleaving
import TorusRobot.Proofs.Session.Deadlines

set_option relaxedAutoImplicit false
set_option autoImplicit false

namespace TorusRobot

open Session (Operation Fate Lasting Orderly)

/-! ### What events tell of notices -/

namespace Event

/-- The numbers of the notices that an event tells to have been taken away. -/
def removed : Event → List Nat
  | expired ids => ids
  | dismissed id true => [id]
  | dismissed _ false | applied _ _ _ _ | reset _ => []

/-- The number of the notice that an event announces. -/
def announced? : Event → Option Nat
  | applied _ _ _ notice => notice
  | reset notice => some notice
  | dismissed _ _ | expired _ => none

/-- Under given settings, an event announces a notice under a number and with a lifetime. -/
inductive Announces (A : Settings) : Event → Nat → Nat → Prop where
  | applied {line : String} {o : Outcome} {w : World} {id : Nat} {notice : Notice}
      (h : o.notice = some notice) :
      Announces A (.applied line o w (some id)) id (notice.lifetime.getD A.noticeLifetime)
  | reset {id : Nat} : Announces A (.reset id) id A.resetLifetime

end Event

/-- Whether a notice that goes in this way is told to be gone. -/
def Session.Fate.isTold : Fate → Bool
  | .expired | .dismissed => true
  | .evicted | .dropped => false

namespace Session

variable {s : Session}

/-! ### One operation -/

theorem mem_expiry?_iff {ids : List Nat} {e : Event} :
    e ∈ expiry? ids ↔ ids ≠ [] ∧ e = .expired ids := by
  unfold expiry?
  cases ids <;> simp [eq_comm]

theorem removed_expiry? (ids : List Nat) : (expiry? ids).toList.flatMap Event.removed = ids := by
  cases ids <;> simp [expiry?, Event.removed]

/-- An operation tells to be gone what goes in it, unless it is of those that go untold. -/
theorem removed_event? (h : Orderly s) (op : Operation) :
    (s.event? op).toList.flatMap Event.removed =
      if op.fate.isTold then s.departures op else [] := by
  cases op with
  | submit line now =>
      rw [event?_submit]
      cases (s.submit line now).2 <;> rfl
  | reset now => rfl
  | dismiss id =>
      rw [h.departures_dismiss, event?_dismiss]
      cases (s.dismiss id).2 <;> rfl
  | expire now =>
      rw [event?_expire, removed_expiry?, h.departures_expire]
      rfl

/-- An operation announces what comes in it. -/
theorem announced_event? (h : Orderly s) (op : Operation) :
    (s.event? op).toList.filterMap Event.announced? = s.arrivals op := by
  rw [h.arrivals_eq, fresh?]
  cases op with
  | submit line now =>
      rw [event?_submit, notice?]
      cases ho : (s.submit line now).2 with
      | none => rfl
      | some o =>
          cases hn : o.notice <;> simp [Event.announced?, hn]
  | reset now => rfl
  | dismiss id => rfl
  | expire now =>
      rw [event?_expire, expiry?]
      split <;> rfl

/-! ### Several operations -/

/-- **What is told to be gone has gone**, and nothing else has gone by expiry or by dismissal. -/
theorem removed_eventsOf (h : Orderly s) (ops : List Operation) :
    (s.eventsOf ops).flatMap Event.removed =
      ((s.gone ops).filter fun x => x.2.isTold).map Prod.fst := by
  induction ops generalizing s with
  | nil => rfl
  | cons op ops ih =>
      rw [eventsOf, List.flatMap_append, ih (h.perform op), removed_event? h, gone,
        List.filter_append, List.map_append, List.filter_map]
      congr 1
      split
      · rename_i htold
        simp [Function.comp_def, htold]
      · rename_i htold
        simp [Function.comp_def, htold]

/-- **What is announced has come**, and so has nothing else. -/
theorem announced_eventsOf (h : Orderly s) (ops : List Operation) :
    (s.eventsOf ops).filterMap Event.announced? = s.issued ops := by
  induction ops generalizing s with
  | nil => rfl
  | cons op ops ih =>
      rw [eventsOf, List.filterMap_append, ih (h.perform op), announced_event? h, issued]

/-- A number is told to be gone at most once. -/
theorem nodup_removed (h : Orderly s) (ops : List Operation)
    (hgone : ((s.gone ops).map Prod.fst).Nodup) :
    ((s.eventsOf ops).flatMap Event.removed).Nodup := by
  rw [removed_eventsOf h]
  exact hgone.sublist (List.Sublist.map _ List.filter_sublist)

/-- What is told to have expired are numbers in order, and there are some. -/
theorem expired_of_mem_eventsOf (h : Orderly s) {ops : List Operation} {ids : List Nat}
    (hids : .expired ids ∈ s.eventsOf ops) : ids ≠ [] ∧ ids.Pairwise (· < ·) := by
  induction ops generalizing s with
  | nil => cases hids
  | cons op ops ih =>
      rw [eventsOf, List.mem_append, Option.mem_toList] at hids
      rcases hids with hfirst | hrest
      · cases op with
        | submit line now =>
            rw [event?_submit, Option.map_eq_some_iff] at hfirst
            obtain ⟨o, -, ho⟩ := hfirst
            cases ho
        | reset now => cases hfirst
        | dismiss id => cases hfirst
        | expire now =>
            rw [event?_expire] at hfirst
            obtain ⟨hne, heq⟩ := mem_expiry?_iff.1 hfirst
            obtain rfl := Event.expired.inj heq
            refine ⟨hne, ?_⟩
            -- they are among the numbers on show, which are in order
            rw [← h.departures_expire]
            exact h.ordered.sublist List.filter_sublist
      · exact ih (h.perform op) hrest

/-! ### Rounds -/

/-- The session after some rounds. -/
def after (s : Session) (rounds : List Round) : Session := s.run (rounds.flatMap Round.operations)

/-- What is told in a round. -/
def toldIn (s : Session) (round : Round) : List Event := s.eventsOf round.operations

theorem after_concat (s : Session) (rounds : List Round) (round : Round) :
    s.after (rounds ++ [round]) = (((s.after rounds).run round.asked).expire round.now).1 := by
  rw [after, List.flatMap_append, run_append, List.flatMap_singleton, Round.operations, run_append]
  rfl

/-- In a round the request is answered, and then it is told what has expired. -/
theorem toldIn_eq (s : Session) (round : Round) :
    s.toldIn round = s.eventsOf round.asked ++
      (expiry? ((s.run round.asked).expire round.now).2).toList := by
  rw [toldIn, Round.operations, eventsOf_append, eventsOf_singleton, event?_expire]

/-- The answer to a request is never that something has expired. -/
theorem exists_of_mem_asked {round : Round} {e : Event} (h : e ∈ s.eventsOf round.asked) :
    ∃ r, round.request? = some r ∧ s.event? (r.operation round.now) = some e := by
  unfold Round.asked at h
  cases hr : round.request? with
  | none =>
      rw [hr] at h
      cases h
  | some r =>
      rw [hr, Option.map_some, Option.toList_some, eventsOf_singleton, Option.mem_toList] at h
      exact ⟨r, rfl, h⟩

theorem event?_ne_expired {r : Request} {now : Nat} {ids : List Nat} :
    s.event? (r.operation now) ≠ some (.expired ids) := by
  cases r with
  | submit line =>
      rw [Request.operation, event?_submit]
      cases (s.submit line now).2 <;> simp
  | reset => simp [Request.operation, event?_reset]
  | dismiss id => simp [Request.operation, event?_dismiss]

/-- What is told to have expired in a round is what was due after its request. -/
theorem expired_of_mem_toldIn {round : Round} {ids : List Nat}
    (h : .expired ids ∈ s.toldIn round) :
    ids = ((s.run round.asked).expire round.now).2 := by
  rw [toldIn_eq, List.mem_append, Option.mem_toList] at h
  rcases h with hasked | hexpired
  · obtain ⟨r, -, he⟩ := exists_of_mem_asked hasked
    exact absurd he event?_ne_expired
  · exact Event.expired.inj (mem_expiry?_iff.1 hexpired).2

/-- The notice that a request puts in the tray is announced, under its number and with its
lifetime. -/
theorem exists_announces (h : Lasting s) {r : Request} {now : Nat} {notice : Notice}
    (hn : s.notice? (r.operation now) = some notice) :
    ∃ e, s.event? (r.operation now) = some e ∧
      e.Announces s.settings s.tray.nextId (notice.lifetime.getD s.tray.lifetime) := by
  cases r with
  | submit line =>
      rw [Request.operation, notice?, Option.bind_eq_some_iff] at hn
      obtain ⟨o, ho, hnotice⟩ := hn
      refine ⟨_, by rw [Request.operation, event?_submit, ho, Option.map_some], ?_⟩
      rw [hnotice, Option.isSome_some, if_pos rfl, h.lifetime_eq]
      exact .applied hnotice
  | reset =>
      obtain rfl := Option.some.inj hn
      exact ⟨.reset s.tray.nextId, rfl, .reset⟩
  | dismiss id => cases hn

/-- A notice on show after the request of a round was on show before it, or it is announced in the
round and its lifetime is still to go. -/
theorem mem_active_asked (h : Lasting s) {round : Round} {e : Tray.Entry}
    (he : e ∈ (s.run round.asked).tray.active) :
    e ∈ s.tray.active ∨ ∃ ev lifetime, ev ∈ s.toldIn round ∧
      ev.Announces s.settings e.id lifetime ∧ e.deadline = round.now + lifetime ∧ 0 < lifetime := by
  cases hr : round.request? with
  | none =>
      rw [Round.asked, hr] at he
      exact .inl he
  | some r =>
      rw [Round.asked, hr] at he
      rcases mem_active_operation he with hold | ⟨notice, hn, rfl⟩
      · exact .inl hold
      · obtain ⟨ev, hev, hannounces⟩ := exists_announces h hn
        refine .inr ⟨ev, _, ?_, hannounces, rfl, h.lifetime_pos hn⟩
        rw [toldIn_eq, Round.asked, hr, Option.map_some, Option.toList_some, eventsOf_singleton, hev]
        exact List.mem_append_left _ (List.mem_singleton.2 rfl)

/-- An entry of the tray was announced in one of the rounds, in which it was given its deadline. -/
def AnnouncedIn (s : Session) (rounds : List Round) (e : Tray.Entry) : Prop :=
  ∃ before round rest ev lifetime, rounds = before ++ round :: rest ∧
    ev ∈ (s.after before).toldIn round ∧ ev.Announces s.settings e.id lifetime ∧
      e.deadline = round.now + lifetime

/-- **Every notice on show was there at the start or was announced in a round before.** -/
theorem origin_of_active (h : Lasting s) (rounds : List Round) {e : Tray.Entry}
    (he : e ∈ (s.after rounds).tray.active) : e ∈ s.tray.active ∨ s.AnnouncedIn rounds e := by
  induction rounds using List.reverseRecOn with
  | nil => exact .inl he
  | append_singleton rounds round ih =>
      rw [after_concat, mem_active_expire_iff] at he
      have hlasting : Lasting (s.after rounds) := h.run _
      rcases mem_active_asked hlasting he.1 with hold | ⟨ev, lifetime, hev, hannounces, hd, -⟩
      · refine (ih hold).imp id ?_
        rintro ⟨before, round', rest, ev, lifetime, rfl, hannounced⟩
        refine ⟨before, round', rest ++ [round], ev, lifetime, ?_, hannounced⟩
        rw [List.append_assoc, List.cons_append]
      · have hsettings : (s.after rounds).settings = s.settings := settings_run _ _
        rw [hsettings] at hannounces
        exact .inr ⟨rounds, round, [], ev, lifetime, rfl, hev, hannounces, hd⟩

/-! ### What is told is in order -/

/-- No number goes twice. -/
theorem nodup_gone (h : Orderly s) (ops : List Operation) : ((s.gone ops).map Prod.fst).Nodup := by
  have hperm := h.perm_run ops
  have hboth : (s.shown ++ s.issued ops).Nodup := by
    rw [(h.issued_eq ops).1]
    refine h.nodup.append List.nodup_range' ?_
    -- the numbers on show are below those still to come
    intro id hshown hissued
    have hlow := h.below id hshown
    have hhigh := (List.mem_range'_1.1 hissued).1
    omega
  exact ((hperm.nodup_iff.2 hboth).sublist (List.sublist_append_right _ _))

/-- What is to be said of the expiry of notices when a worker goes through the rounds. -/
structure Timely (s : Session) (rounds : List Round) : Prop where
  /-- If it is told that something has expired, something has, and the numbers are in order. -/
  expired : ∀ ids, .expired ids ∈ s.eventsOf (rounds.flatMap Round.operations) →
    ids ≠ [] ∧ ids.Pairwise (· < ·)
  /-- A number is told to be gone at most once, be it by expiry or by dismissal. -/
  once : ((s.eventsOf (rounds.flatMap Round.operations)).flatMap Event.removed).Nodup
  /-- A number that comes in the rounds is told to have expired in a later round than that in which
  it was announced, and at a reading of the clock that is not before its deadline. -/
  announced : ∀ before round rest ids id, rounds = before ++ round :: rest →
    .expired ids ∈ (s.after before).toldIn round → id ∈ ids → s.tray.nextId ≤ id →
      ∃ e : Tray.Entry, e.id = id ∧ s.AnnouncedIn before e ∧ e.deadline ≤ round.now
  /-- The numbers announced are those that come, and these are counted off. -/
  numbered : (s.eventsOf (rounds.flatMap Round.operations)).filterMap Event.announced? =
    List.range' s.tray.nextId (s.issued (rounds.flatMap Round.operations)).length
  /-- With an outcome, a number is announced exactly if the outcome has a notice; it is the number
  that comes with the line, and under it the notice is on show. -/
  outcome : ∀ before round rest line o w id?, rounds = before ++ round :: rest →
    .applied line o w id? ∈ (s.after before).toldIn round →
      (id?.isSome ↔ o.notice.isSome) ∧
      (s.after before).arrivals (.submit line round.now) = id?.toList ∧
      ∀ id ∈ id?, ∃ e ∈ ((s.after before).submit line round.now).1.tray.active,
        e.id = id ∧ o.notice = some e.notice
  /-- No notice on show after a round is due at the reading of its clock. -/
  settled : ∀ before round rest, rounds = before ++ round :: rest →
    ∀ e ∈ (s.after (before ++ [round])).tray.active, round.now < e.deadline
  /-- A round without a request in which the earliest deadline has come tells that something has
  expired, and nothing else. -/
  overdue : ∀ before round rest d, rounds = before ++ round :: rest → round.request? = none →
    (s.after before).tray.nextDeadline? = some d → d ≤ round.now →
      ∃ ids, ids ≠ [] ∧ (s.after before).toldIn round = [.expired ids]

theorem exists_announcedIn (ho : Orderly s) (hl : Lasting s) {before : List Round} {round : Round}
    {ids : List Nat} {id : Nat} (hids : .expired ids ∈ (s.after before).toldIn round)
    (hid : id ∈ ids) (hnew : s.tray.nextId ≤ id) :
    ∃ e : Tray.Entry, e.id = id ∧ s.AnnouncedIn before e ∧ e.deadline ≤ round.now := by
  obtain rfl := expired_of_mem_toldIn hids
  obtain ⟨e, he, rfl, hd⟩ := mem_expire_iff.1 hid
  have hlasting : Lasting (s.after before) := hl.run _
  rcases mem_active_asked hlasting he with hold | ⟨ev, lifetime, -, -, hdeadline, hpos⟩
  · rcases origin_of_active hl before hold with hstart | hannounced
    · have hbelow := ho.below e.id (List.mem_map_of_mem hstart)
      omega
    · exact ⟨e, rfl, hannounced, hd⟩
  · -- a notice put in the tray in this round is not due in it
    omega

theorem outcome_of_mem_toldIn (h : Orderly s) {round : Round} {line : String} {o : Outcome}
    {w : World} {id? : Option Nat} (hev : .applied line o w id? ∈ s.toldIn round) :
    (id?.isSome ↔ o.notice.isSome) ∧ s.arrivals (.submit line round.now) = id?.toList ∧
      ∀ id ∈ id?, ∃ e ∈ (s.submit line round.now).1.tray.active,
        e.id = id ∧ o.notice = some e.notice := by
  rw [toldIn_eq, List.mem_append, Option.mem_toList] at hev
  rcases hev with hasked | hexpired
  · obtain ⟨r, -, he⟩ := exists_of_mem_asked hasked
    cases r with
    | reset => simp [Request.operation, event?_reset] at he
    | dismiss id => simp [Request.operation, event?_dismiss] at he
    | submit line' =>
        rw [Request.operation, event?_submit, Option.map_eq_some_iff] at he
        obtain ⟨o', ho, he⟩ := he
        obtain ⟨rfl, rfl, -, rfl⟩ := Event.applied.inj he
        rw [h.arrivals_eq, fresh?, notice?, ho, Option.bind_some]
        cases hn : o'.notice with
        | none => simp
        | some notice =>
            refine ⟨by simp, by simp, ?_⟩
            intro id hid
            obtain rfl := Option.some.inj hid
            exact ⟨_, mem_active_submit ho hn, rfl, rfl⟩
  · cases (mem_expiry?_iff.1 hexpired).2

theorem toldIn_of_overdue {round : Round} {d : Nat} (hnone : round.request? = none)
    (hdeadline : s.tray.nextDeadline? = some d) (hd : d ≤ round.now) :
    ∃ ids, ids ≠ [] ∧ s.toldIn round = [.expired ids] := by
  have hasked : round.asked = [] := by
    rw [Round.asked, hnone]
    rfl
  have hne := expire_ne_nil hdeadline hd
  refine ⟨(s.expire round.now).2, hne, ?_⟩
  rw [toldIn_eq, hasked, eventsOf_nil, List.nil_append, run_nil, expiry?, if_neg]
  · rfl
  · simpa using hne

/-- **What is told of expiry is in order**, whatever the rounds and the times. -/
theorem timely (ho : Orderly s) (hl : Lasting s) (rounds : List Round) : Timely s rounds where
  expired _ h := expired_of_mem_eventsOf ho h
  once := nodup_removed ho _ (nodup_gone ho _)
  announced before round rest ids id _ hids hid hnew := exists_announcedIn ho hl hids hid hnew
  numbered := by
    rw [announced_eventsOf ho]
    exact (ho.issued_eq _).1
  outcome before round rest line o w id? _ hev := by
    have horderly : Orderly (s.after before) := ho.run _
    exact outcome_of_mem_toldIn horderly hev
  settled before round rest _ e he := by
    rw [after_concat, mem_active_expire_iff] at he
    exact he.2
  overdue before round rest d _ hnone hdeadline hd := toldIn_of_overdue hnone hdeadline hd

end Session

/-! ### Runs of the worker -/

namespace Dispatcher

open Session

/-- The worker is in a round without a request that it has not begun to carry out. -/
def Stage.Idle : Stage → Prop
  | woken request? => request? = none
  | ready round => round.request? = none
  | waiting | clearing _ => False

/-- A worker without a request had notices to look after. -/
theorem Step.awaited {x y : Moment} {m : Move} (h : Step x m y)
    (hx : x.stage.Idle → x.dispatcher.session.tray.nextDeadline?.isSome) :
    y.stage.Idle → y.dispatcher.session.tray.nextDeadline?.isSome := by
  cases h with
  | accept h =>
      obtain ⟨-, -, rfl⟩ := send_eq_ok_iff.1 h
      exact hx
  | refuse h =>
      rw [(Step.refuse h).refuse_eq]
      exact hx
  | close => exact hx
  | collect h =>
      obtain ⟨es, -, rfl⟩ := take?_eq_some_iff.1 h
      exact hx
  | tick now => exact hx
  | receive hrun hstage hqueue => exact fun hidle => nomatch hidle
  | timeOut hrun hstage hqueue haccepting hdeadline => exact fun _ => hdeadline
  | look hrun hstage =>
      rw [hstage] at hx
      exact hx
  | handle hrun hstage => exact fun hidle => hidle.elim
  | clear hrun hstage => exact fun hidle => hidle.elim
  | stop hrun hstage hqueue haccepting => exact hx

/-- The moves so far have left no round without a request that had no deadline to wait for. -/
def Awaited (s : Session) (rounds : List Round) : Prop :=
  ∀ before round rest, rounds = before ++ round :: rest → round.request? = none →
    (s.after before).tray.nextDeadline?.isSome

theorem Awaited.concat {s : Session} {rounds : List Round} {round : Round} (h : Awaited s rounds)
    (hround : round.request? = none → (s.after rounds).tray.nextDeadline?.isSome) :
    Awaited s (rounds ++ [round]) := by
  intro before round' rest heq hnone
  rcases List.eq_nil_or_concat rest with rfl | ⟨rest, last, rfl⟩
  · obtain ⟨rfl, hlast⟩ := List.append_inj' heq rfl
    obtain rfl := List.head_eq_of_cons_eq hlast
    exact hround hnone
  · rw [List.concat_eq_append, ← List.cons_append, ← List.append_assoc] at heq
    exact h before round' rest (List.append_inj' heq rfl).1 hnone

/-- **In every run, a worker without a request had a deadline to wait for.** -/
theorem Run.awaited {s : Session} {x y : Moment} {moves : List Move} (hx : Serial s [] x)
    (hstage : x.stage = .waiting) (h : Run x moves y) :
    (y.stage.Idle → y.dispatcher.session.tray.nextDeadline?.isSome) ∧
      Awaited s (rounds moves) := by
  induction h with
  | refl =>
      refine ⟨?_, fun before round rest heq => by simp [rounds] at heq⟩
      rw [hstage]
      exact False.elim
  | @snoc y z moves m h hm ih =>
      obtain ⟨hidle, hawaited⟩ := ih
      refine ⟨hm.awaited hidle, ?_⟩
      rw [rounds_concat]
      cases hround : m.round? with
      | none => rwa [Option.toList_none, List.append_nil]
      | some round =>
          refine hawaited.concat fun hnone => ?_
          cases hm with
          | @handle round' hrun hready =>
              obtain rfl := Option.some.inj hround
              -- the session that the worker is about to serve is that of the rounds before
              have hsession := (h.serial hx).session
              rw [hready, Stage.owed, run_nil] at hsession
              rw [hready] at hidle
              rw [after, ← operations, ← hsession]
              exact hidle hnone
          | accept | refuse | close | collect | tick | receive | timeOut | look | clear | stop =>
              cases hround

/-- **What callers are told of expiry is in order in every run of the worker**, on a session that
valid settings allow and in which anything may have been done before:

* the session, and the events told, are those of the rounds so far, once the worker has also taken
  away what is due in the last one;
* of these rounds all holds that `TorusRobot.Session.Timely` says, at whatever times the worker
  looked at the clock;
* what had to make room or was dropped by a reset, before the run or in it, is never told to be
  gone;
* a round without a request had a deadline to wait for, so it tells that something has expired if
  that deadline has come. -/
theorem expiry_is_timely {A : Settings} {s₀ : Session} (hs : start A = .ok s₀)
    (earlier : List Operation) {capacity t : Nat} {moves : List Move} {x : Moment}
    (h : Run ⟨.ofSession (s₀.run earlier) capacity, .waiting, t⟩ moves x) :
    x.dispatcher.session.run x.stage.owed = (s₀.run earlier).after (rounds moves) ∧
    collected moves ++ x.dispatcher.events ++ x.dispatcher.session.eventsOf x.stage.owed =
      (s₀.run earlier).eventsOf ((rounds moves).flatMap Round.operations) ∧
    Timely (s₀.run earlier) (rounds moves) ∧
    (∀ y ∈ s₀.gone (earlier ++ operations moves), y.2 = .evicted ∨ y.2 = .dropped →
      y.1 ∉ ((s₀.run earlier).eventsOf (operations moves)).flatMap Event.removed) ∧
    ∀ before round rest, rounds moves = before ++ round :: rest → round.request? = none →
      ∃ d, ((s₀.run earlier).after before).tray.nextDeadline? = some d ∧
        (d ≤ round.now → ∃ ids, ids ≠ [] ∧
          ((s₀.run earlier).after before).toldIn round = [.expired ids]) := by
  have hstart := Serial.ofSession (s₀.run earlier) capacity t
  have ho := (orderly_start hs).run earlier
  have htimely := timely ho ((Lasting.start hs).run earlier) (rounds moves)
  have hserial := h.serial hstart
  refine ⟨hserial.session, hserial.events, htimely, ?_, ?_⟩
  · intro y hy huntold htold
    have hnodup := nodup_gone (orderly_start hs) (earlier ++ operations moves)
    rw [removed_eventsOf ho] at htold
    obtain ⟨z, hz, hzy⟩ := List.mem_map.1 htold
    obtain ⟨hzgone, hztold⟩ := List.mem_filter.1 hz
    rw [gone_append] at hy hnodup
    -- it has gone in one way only
    obtain rfl := List.inj_on_of_nodup_map hnodup (List.mem_append_right _ hzgone) hy hzy
    rcases huntold with hfate | hfate
    · rw [hfate] at hztold
      cases hztold
    · rw [hfate] at hztold
      cases hztold
  · intro before round rest heq hnone
    obtain ⟨d, hd⟩ := Option.isSome_iff_exists.1 ((Run.awaited hstart rfl h).2 before round rest heq
      hnone)
    exact ⟨d, hd, htimely.overdue before round rest d heq hnone hd⟩

/-- In `TorusRobot.Dispatcher.bustle` the worker wakes up without a request when the deadline of a
notice is long past, tells that it has expired, and does not tell so again when it is dismissed. -/
theorem expiry_is_timely_bustle :
    ∃ x, Run ⟨.ofSession (Session.run (.fresh {}) []) 1, .waiting, 0⟩ bustle x ∧
      ∃ e : Tray.Entry, e.id = 1 ∧
        (Session.fresh {}).AnnouncedIn [⟨some .reset, 7⟩] e ∧ e.deadline ≤ 5007 := by
  obtain ⟨x, hx, hstopped⟩ := run_bustle
  have hs : start {} = .ok (fresh {}) := start_eq_ok_iff.2 ⟨rfl, rfl⟩
  obtain ⟨-, -, htimely, -⟩ := expiry_is_timely hs [] hx
  have hrounds : rounds bustle = [⟨some .reset, 7⟩] ++ ⟨none, 5007⟩ ::
      [⟨some (.submit " "), 3⟩, ⟨some (.dismiss 1), 3⟩] := rfl
  have htold : .expired [1] ∈ ((fresh {}).after [⟨some .reset, 7⟩]).toldIn ⟨none, 5007⟩ := by
    decide +kernel
  exact ⟨x, hx, htimely.announced _ _ _ _ 1 hrounds htold (by decide) (by decide)⟩

end Dispatcher

end TorusRobot
