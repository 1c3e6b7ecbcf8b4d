/-
**When notices lapse.**

A tray keeps its notices in the order in which they were put there, while their deadlines come in
any order: notices ask for lifetimes of their own, and the clock may go backwards.  Here a tray is
followed through any series of changes.  What every change respects is the order of the numbers; a
number that was issued and is not on show any more does not come back, and a notice on show has the
deadline that it was put there with.  From this it follows what is taken away when it is due, and
when the next time for it is.

Main definitions:

* `TorusRobot.Queue.Evicts` — the loop that makes room in a queue;
* `TorusRobot.Tray.Change`, `TorusRobot.Tray.run` — changes of a tray, one after another;
* `TorusRobot.Tray.Tidy` — the state of a tray that every change preserves;
* `TorusRobot.Tray.PutBy` — where a notice and its deadline come from;
* `TorusRobot.Tray.Lost`, `TorusRobot.Tray.NeverTold` — a number is not on show any more, and it is
  not told of what is due, now or later;
* `TorusRobot.Tray.Punctual`, `TorusRobot.Tray.TakesDue` — when something is due, and what is.

Main results:

* `TorusRobot.Queue.evicts_splitAt` — the loop that makes room comes to an end;
* `TorusRobot.Tray.exists_active_perform` — what every change does to the notices on show;
* `TorusRobot.Tray.Tidy.run`, `TorusRobot.Tray.putBy_of_mem_run`, `TorusRobot.Tray.Lost.run` — the
  order is kept, deadlines are traced back, and what has gone stays away;
* `TorusRobot.Tray.expire_expire`, `TorusRobot.Tray.perm_expire_expire` — nothing is lost by taking
  away what is due in two steps;
* `TorusRobot.Tray.notices_lapse_on_time` — **notices go when their time has come**.
-/
import Mathlib.Data.List.Induction
import Mathlib.Data.List.Nodup
import TorusRobot.Session.Tray

set_option relaxedAutoImplicit false
set_option autoImplicit false

/-- To keep some elements and then fewer of them is to keep these at once. -/
theorem List.filter_filter_of_imp {α : Type} {p p' : α → Bool}
    (h : ∀ a, p a = true → p' a = true) (l : List α) : (l.filter p').filter p = l.filter p := by
  rw [List.filter_filter]
  refine List.filter_congr fun a _ => ?_
  cases hp : p a with
  | true => rw [h a hp, Bool.and_self]
  | false => rw [Bool.false_and]

namespace TorusRobot

/-! ### Making room -/

namespace Queue

variable {α : Type} {capacity : Nat} {q r : Queue α}

/-- The loop that makes room in a queue: while the queue is not below the capacity, the element at
the front leaves, if there is one.  The elements that have left are told in turn. -/
inductive Evicts (capacity : Nat) : Queue α → List α → Queue α → Prop where
  | done {q : Queue α} (hroom : q.size < capacity) : Evicts capacity q [] q
  | leave {q rest r : Queue α} {a : α} {gone : List α} (hfull : capacity ≤ q.size)
      (hpop : q.pop? = some (a, rest)) (hrest : Evicts capacity rest gone r) :
      Evicts capacity q (a :: gone) r
  /-- The loop goes on even if there is no element. -/
  | idle {q r : Queue α} {gone : List α} (hfull : capacity ≤ q.size) (hpop : q.pop? = none)
      (hrest : Evicts capacity q gone r) : Evicts capacity q gone r

/-- A queue that holds something has a front. -/
theorem exists_pop? (h : 0 < q.size) :
    ∃ a rest, q.pop? = some (a, rest) ∧ rest.size + 1 = q.size := by
  cases hpop : q.pop? with
  | none =>
      rw [size_eq_length, toList_of_pop?_eq_none hpop] at h
      cases h
  | some front =>
      obtain ⟨a, rest⟩ := front
      refine ⟨a, rest, rfl, ?_⟩
      rw [size_eq_length, size_eq_length q, toList_of_pop?_eq_some hpop, List.length_cons]

/-- **The loop that makes room comes to an end**, and leaves what is left when as many elements as
are too many were split off at the front. -/
theorem evicts_splitAt (hpos : 0 < capacity) (q : Queue α) :
    Evicts capacity q (q.splitAt (q.size + 1 - capacity)).1
      (q.splitAt (q.size + 1 - capacity)).2 := by
  -- by induction on how many elements are too many
  induction h : q.size + 1 - capacity generalizing q with
  | zero =>
      rw [splitAt]
      exact .done (by omega)
  | succ n ih =>
      obtain ⟨a, rest, hpop, hsize⟩ := exists_pop? (q := q) (by omega)
      have hrest := ih rest (by omega)
      rw [splitAt, hpop]
      exact .leave (by omega) hpop hrest

theorem filter_filter_of_imp {p p' : α → Bool} (h : ∀ a, p a = true → p' a = true) (q : Queue α) :
    (q.filter p').filter p = q.filter p := by
  simp only [filter, List.filter_filter_of_imp h]

end Queue

namespace Tray

/-! ### Changes -/

/-- A change of a tray. -/
inductive Change where
  | push (notice : Notice) (now : Nat)
  | dismiss (id : Nat)
  | expire (now : Nat)
  | clear
deriving DecidableEq, Repr

/-- The tray after a change. -/
def perform (t : Tray) : Change → Tray
  | .push notice now => (t.push notice now).tray
  | .dismiss id => (t.dismiss id).1
  | .expire now => (t.expire now).1
  | .clear => t.clear

/-- The tray after changes, one after another. -/
def run (t : Tray) (changes : List Change) : Tray := changes.foldl perform t

variable {t : Tray} {e : Entry} {id : Nat}

@[simp] theorem run_nil (t : Tray) : t.run [] = t := rfl

@[simp] theorem run_cons (t : Tray) (change : Change) (changes : List Change) :
    t.run (change :: changes) = (t.perform change).run changes := rfl

theorem run_concat (t : Tray) (changes : List Change) (change : Change) :
    t.run (changes ++ [change]) = (t.run changes).perform change :=
  List.foldl_concat perform t change changes

/-- What a change puts in the tray. -/
def arriving (t : Tray) : Change → List Entry
  | .push notice now => [⟨t.nextId, notice, t.deadline notice now⟩]
  | .dismiss _ | .expire _ | .clear => []

/-- **What every change does to the notices on show**: some stay, in the same order and as they are,
and a new one may come behind them. -/
theorem exists_active_perform (t : Tray) (change : Change) :
    ∃ kept, kept.Sublist t.active ∧ (t.perform change).active = kept ++ t.arriving change := by
  cases change with
  | push notice now => exact ⟨_, List.drop_sublist _ _, active_push t notice now⟩
  | dismiss id =>
      refine ⟨t.active.filter fun e => e.id != id, List.filter_sublist, ?_⟩
      rw [perform, active_dismiss, arriving, List.append_nil]
  | expire now =>
      refine ⟨t.active.filter fun e => !decide (e.deadline ≤ now), List.filter_sublist, ?_⟩
      rw [perform, active_expire, arriving, List.append_nil]
  | clear => exact ⟨[], List.nil_sublist _, rfl⟩

theorem nextId_perform (t : Tray) (change : Change) :
    (t.perform change).nextId = t.nextId + (t.arriving change).length := by
  cases change <;> rfl

theorem capacity_perform (t : Tray) (change : Change) :
    (t.perform change).capacity = t.capacity := by
  cases change <;> rfl

theorem capacity_run (t : Tray) (changes : List Change) :
    (t.run changes).capacity = t.capacity := by
  induction changes generalizing t with
  | nil => rfl
  | cons change changes ih => rw [run_cons, ih, capacity_perform]

theorem lifetime_perform (t : Tray) (change : Change) :
    (t.perform change).lifetime = t.lifetime := by
  cases change <;> rfl

theorem lifetime_run (t : Tray) (changes : List Change) :
    (t.run changes).lifetime = t.lifetime := by
  induction changes generalizing t with
  | nil => rfl
  | cons change changes ih => rw [run_cons, ih, lifetime_perform]

/-- What arrives has the next number. -/
theorem id_of_mem_arriving {change : Change} (h : e ∈ t.arriving change) : e.id = t.nextId := by
  cases change with
  | push notice now => rw [List.mem_singleton.1 h]
  | dismiss id => cases h
  | expire now => cases h
  | clear => cases h

/-! ### Order -/

/-- A tray is tidy: it has room for something and holds no more than it has room for, and the
numbers on show grow from the oldest notice to the newest and are below the next one. -/
structure Tidy (t : Tray) : Prop where
  capacity_pos : 0 < t.capacity
  bounded : t.active.length ≤ t.capacity
  ordered : (t.active.map Entry.id).Pairwise (· < ·)
  below : ∀ e ∈ t.active, e.id < t.nextId

theorem tidy_ofCapacity (capacity lifetime : Nat) : (ofCapacity capacity lifetime).Tidy where
  capacity_pos := Nat.le_max_right capacity 1
  bounded := Nat.zero_le _
  ordered := List.Pairwise.nil
  below := nofun

namespace Tidy

/-- After a change there are no more notices than there is room for. -/
theorem bounded_perform (h : t.Tidy) (change : Change) :
    (t.perform change).active.length ≤ t.capacity := by
  have hpos := h.capacity_pos
  have hbounded := h.bounded
  cases change with
  | push notice now =>
      rw [perform, active_push, List.length_append, List.length_drop, List.length_singleton]
      omega
  | dismiss id =>
      rw [perform, active_dismiss]
      exact Nat.le_trans (List.length_filter_le _ _) hbounded
  | expire now =>
      rw [perform, active_expire]
      exact Nat.le_trans (List.length_filter_le _ _) hbounded
  | clear => exact Nat.zero_le _

theorem perform (h : t.Tidy) (change : Change) : (t.perform change).Tidy := by
  obtain ⟨kept, hkept, hactive⟩ := exists_active_perform t change
  refine ⟨?_, ?_, ?_, ?_⟩
  · rw [capacity_perform]
    exact h.capacity_pos
  · rw [capacity_perform]
    exact h.bounded_perform change
  · -- those that stay are in order, and what arrives comes behind all of them
    rw [hactive, List.map_append, List.pairwise_append]
    refine ⟨h.ordered.sublist (hkept.map _), ?_, ?_⟩
    · cases change <;> simp [arriving]
    · intro i hi j hj
      obtain ⟨e, he, rfl⟩ := List.mem_map.1 hi
      obtain ⟨e', he', rfl⟩ := List.mem_map.1 hj
      rw [id_of_mem_arriving he']
      exact h.below e (hkept.subset he)
  · intro e he
    rw [nextId_perform]
    rw [hactive, List.mem_append] at he
    rcases he with hold | hnew
    · exact Nat.lt_add_right _ (h.below e (hkept.subset hold))
    · rw [id_of_mem_arriving hnew]
      exact Nat.lt_add_of_pos_right (List.length_pos_of_mem hnew)

theorem run (h : t.Tidy) (changes : List Change) : (t.run changes).Tidy := by
  induction changes generalizing t with
  | nil => exact h
  | cons change changes ih => exact ih (h.perform change)

end Tidy

/-! ### Where notices come from -/

/-- In a series of changes a notice was put in the tray: by the push that told its number, at a time
from which on it has the lifetime that it asked for, or that of the tray if it asked for none. -/
def PutBy (t : Tray) (history : List Change) (e : Entry) : Prop :=
  ∃ before notice now after, history = before ++ .push notice now :: after ∧
    e.id = ((t.run before).push notice now).id ∧ e.notice = notice ∧
    e.deadline = now + notice.lifetime.getD t.lifetime

theorem PutBy.concat {history : List Change} (h : PutBy t history e) (change : Change) :
    PutBy t (history ++ [change]) e := by
  obtain ⟨before, notice, now, after, rfl, hput⟩ := h
  exact ⟨before, notice, now, after ++ [change], by simp, hput⟩

/-- **Deadlines are traced back**: what is on show was so at the start or was put there. -/
theorem putBy_of_mem_run {history : List Change} (h : e ∈ (t.run history).active) :
    e ∈ t.active ∨ PutBy t history e := by
  -- on the changes from the last one back
  induction history using List.reverseRecOn with
  | nil => exact .inl h
  | append_singleton history change ih =>
      obtain ⟨kept, hkept, hactive⟩ := exists_active_perform (t.run history) change
      rw [run_concat, hactive, List.mem_append] at h
      rcases h with hold | hnew
      · exact (ih (hkept.subset hold)).imp id fun hput => hput.concat change
      · refine .inr ?_
        cases change with
        | push notice now =>
            obtain rfl := List.mem_singleton.1 hnew
            refine ⟨history, notice, now, [], rfl, rfl, rfl, ?_⟩
            simp only [deadline, lifetime_run]
        | dismiss id => cases hnew
        | expire now => cases hnew
        | clear => cases hnew

/-! ### What is due -/

variable {now : Nat}

theorem nextDeadline?_eq_none_iff : t.nextDeadline? = none ↔ t.active = [] := by
  rw [nextDeadline?, List.min?_eq_none_iff, List.map_eq_nil_iff]

theorem nextDeadline?_eq_some_iff {d : Nat} :
    t.nextDeadline? = some d ↔
      (∃ e ∈ t.active, e.deadline = d) ∧ ∀ e ∈ t.active, d ≤ e.deadline := by
  rw [nextDeadline?, List.min?_eq_some_iff, List.mem_map, List.forall_mem_map]

theorem mem_expire_iff :
    id ∈ (t.expire now).2 ↔ ∃ e ∈ t.active, e.id = id ∧ e.deadline ≤ now := by
  simp only [expire, List.mem_map, List.mem_filter, decide_eq_true_eq]
  constructor
  · rintro ⟨e, ⟨he, hd⟩, hid⟩
    exact ⟨e, he, hid, hd⟩
  · rintro ⟨e, he, hid, hd⟩
    exact ⟨e, ⟨he, hd⟩, hid⟩

theorem mem_active_expire_iff :
    e ∈ (t.expire now).1.active ↔ e ∈ t.active ∧ now < e.deadline := by
  simp

/-- The earliest deadline says when something is due. -/
structure Punctual (t : Tray) : Prop where
  none_iff : t.nextDeadline? = none ↔ t.active = []
  some_iff : ∀ d, t.nextDeadline? = some d ↔
    (∃ e ∈ t.active, e.deadline = d) ∧ ∀ e ∈ t.active, d ≤ e.deadline
  /-- Before it nothing is due. -/
  before : ∀ d now, t.nextDeadline? = some d → now < d → (t.expire now).2 = []
  /-- From then on something is. -/
  since : ∀ d now, t.nextDeadline? = some d → d ≤ now → (t.expire now).2 ≠ []

theorem punctual (t : Tray) : t.Punctual where
  none_iff := nextDeadline?_eq_none_iff
  some_iff d := nextDeadline?_eq_some_iff
  before d now hd hnow := by
    rw [List.eq_nil_iff_forall_not_mem]
    intro id hid
    obtain ⟨e, he, -, hdue⟩ := mem_expire_iff.1 hid
    have hleast := (nextDeadline?_eq_some_iff.1 hd).2 e he
    omega
  since d now hd hnow := by
    obtain ⟨e, he, rfl⟩ := (nextDeadline?_eq_some_iff.1 hd).1
    exact List.ne_nil_of_mem (mem_expire_iff.2 ⟨e, he, rfl, hnow⟩)

/-- What is taken away when it is due, and what stays: the numbers of the notices whose deadline has
come are told in the order in which these were put in the tray, and the other notices are kept as
they are and in the same order. -/
structure TakesDue (t : Tray) (now : Nat) : Prop where
  ordered : (t.expire now).2.Pairwise (· < ·)
  mem_iff : ∀ id, id ∈ (t.expire now).2 ↔ ∃ e ∈ t.active, e.id = id ∧ e.deadline ≤ now
  kept_sublist : (t.expire now).1.active.Sublist t.active
  mem_kept_iff : ∀ e, e ∈ (t.expire now).1.active ↔ e ∈ t.active ∧ now < e.deadline

theorem Tidy.takesDue (h : t.Tidy) (now : Nat) : t.TakesDue now where
  ordered := h.ordered.sublist (List.filter_sublist.map _)
  mem_iff _ := mem_expire_iff
  kept_sublist := by
    rw [active_expire]
    exact List.filter_sublist
  mem_kept_iff _ := mem_active_expire_iff

/-! ### What is due at two times -/

section Twice

variable {now later : Nat}

/-- What is due now is due later. -/
theorem due_later (h : now ≤ later) (e : Entry) (hd : decide (e.deadline ≤ now) = true) :
    decide (e.deadline ≤ later) = true :=
  decide_eq_true (Nat.le_trans (of_decide_eq_true hd) h)

/-- What is not due later is not due now. -/
theorem not_due_now (h : now ≤ later) (e : Entry) (hd : (!decide (e.deadline ≤ later)) = true) :
    (!decide (e.deadline ≤ now)) = true := by
  rw [Bool.not_eq_true', decide_eq_false_iff_not] at hd ⊢
  exact fun hnow => hd (Nat.le_trans hnow h)

/-- To take away what is due now and then what is due later leaves the same tray as the latter
alone. -/
theorem expire_expire (h : now ≤ later) (t : Tray) :
    ((t.expire now).1.expire later).1 = (t.expire later).1 := by
  simp only [expire, Queue.filter_filter_of_imp (not_due_now h)]

/-- And the same numbers are told in all. -/
theorem perm_expire_expire (h : now ≤ later) (t : Tray) :
    ((t.expire now).2 ++ ((t.expire now).1.expire later).2).Perm (t.expire later).2 := by
  -- of what is due later, some is due now and the rest is not
  have hsplit := List.filter_append_perm (fun e => decide (e.deadline ≤ now))
    (t.active.filter fun e => decide (e.deadline ≤ later))
  rw [List.filter_filter_of_imp (due_later h), List.filter_comm] at hsplit
  have hmap := hsplit.map Entry.id
  rw [List.map_append] at hmap
  simpa only [expire, active, Queue.toList_filter] using hmap

end Twice

/-! ### What has gone -/

/-- A number was issued and is not on show any more. -/
structure Lost (t : Tray) (id : Nat) : Prop where
  issued : id < t.nextId
  notMem : ∀ e ∈ t.active, e.id ≠ id

namespace Lost

theorem perform (h : t.Lost id) (change : Change) : (t.perform change).Lost id := by
  obtain ⟨kept, hkept, hactive⟩ := exists_active_perform t change
  refine ⟨?_, ?_⟩
  · rw [nextId_perform]
    exact Nat.lt_add_right _ h.issued
  · intro e he
    rw [hactive, List.mem_append] at he
    rcases he with hold | hnew
    · exact h.notMem e (hkept.subset hold)
    · rw [id_of_mem_arriving hnew]
      exact Nat.ne_of_gt h.issued

/-- **What has gone stays away.** -/
theorem run (h : t.Lost id) (changes : List Change) : (t.run changes).Lost id := by
  induction changes generalizing t with
  | nil => exact h
  | cons change changes ih => exact ih (h.perform change)

theorem notMem_expire (h : t.Lost id) (now : Nat) : id ∉ (t.expire now).2 := by
  intro hid
  obtain ⟨e, he, heq, -⟩ := mem_expire_iff.1 hid
  exact h.notMem e he heq

end Lost

/-- A number is not told of what is due, whatever happens before. -/
def NeverTold (t : Tray) (id : Nat) : Prop :=
  ∀ changes now, id ∉ ((t.run changes).expire now).2

theorem Lost.neverTold (h : t.Lost id) : t.NeverTold id :=
  fun changes now => (h.run changes).notMem_expire now

namespace Tidy

theorem lost_dismiss (h : t.Tidy) (he : e ∈ t.active) : (t.dismiss e.id).1.Lost e.id where
  issued := h.below e he
  notMem e' he' := by
    rw [active_dismiss, List.mem_filter, bne_iff_ne] at he'
    exact he'.2

theorem lost_clear (h : t.Tidy) (he : e ∈ t.active) : t.clear.Lost e.id where
  issued := h.below e he
  notMem := nofun

/-- A notice that makes room for another one is older than all that stay. -/
theorem lost_evicted (h : t.Tidy) {notice : Notice} (hid : id ∈ (t.push notice now).evicted) :
    (t.push notice now).tray.Lost id := by
  rw [evicted_push] at hid
  obtain ⟨e, he, rfl⟩ := List.mem_map.1 hid
  have hbelow := h.below e (List.mem_of_mem_take he)
  refine ⟨Nat.lt_succ_of_lt hbelow, ?_⟩
  intro e' he'
  rw [active_push, List.mem_append, List.mem_singleton] at he'
  rcases he' with hstays | rfl
  · have hordered := List.pairwise_map.1 h.ordered
    rw [← List.take_append_drop (t.active.length + 1 - t.capacity) t.active,
      List.pairwise_append] at hordered
    exact Nat.ne_of_gt (hordered.2.2 e he e' hstays)
  · exact Nat.ne_of_gt hbelow

/-- A notice that was taken away when it was due is not among those that stay. -/
theorem lost_expired (h : t.Tidy) (hid : id ∈ (t.expire now).2) : (t.expire now).1.Lost id := by
  obtain ⟨e, he, rfl, hdue⟩ := mem_expire_iff.1 hid
  refine ⟨h.below e he, ?_⟩
  intro e' he' heq
  obtain ⟨hmem, hnot⟩ := mem_active_expire_iff.1 he'
  have hnodup : (t.active.map Entry.id).Nodup := h.ordered.imp fun hlt => Nat.ne_of_lt hlt
  obtain rfl := List.inj_on_of_nodup_map hnodup hmem he heq
  exact Nat.not_lt_of_le hdue hnot

end Tidy

/-! ### Making room for a notice -/

/-- **At most one notice makes room for another one**: the loop ends, whatever the capacity. -/
theorem Tidy.exists_evicts (h : t.Tidy) (notice : Notice) (now : Nat) :
    ∃ gone kept, Queue.Evicts t.capacity t.onShow gone kept ∧ gone.length ≤ 1 ∧
      t.push notice now =
        ⟨{ t with
            onShow := kept.push ⟨t.nextId, notice, now + notice.lifetime.getD t.lifetime⟩
            nextId := t.nextId + 1 }, t.nextId, gone.map Entry.id⟩ := by
  refine ⟨_, _, Queue.evicts_splitAt h.capacity_pos t.onShow, ?_, rfl⟩
  have hbounded := h.bounded
  rw [Queue.splitAt_fst, List.length_take, Queue.size_eq_length]
  rw [active] at hbounded
  omega

/-- **Notices go when their time has come.**  Take any tray, also one whose capacity is given as
zero and so counts as one, and any series of changes at any times.  Then the notices on show stand
in the order in which they were put there, and each has the deadline that it was put there with.
There is an earliest deadline if and only if something is on show; before it nothing is due, and
from then on something is.  What is taken away when it is due is what has a deadline that has come, in order, and
the rest stays as it is.  Doing this twice, the second time not before the first, comes to the same
as doing it the second time only.  What was dismissed, made room for another notice, was cleared
away or was told of as due is not told of again.  And the loop that makes room for a notice ends,
with at most one notice gone. -/
theorem notices_lapse_on_time (capacity lifetime : Nat) (history : List Change) {t : Tray}
    (ht : t = (ofCapacity capacity lifetime).run history) :
    t.Tidy ∧
    (∀ e ∈ t.active, PutBy (ofCapacity capacity lifetime) history e) ∧
    t.Punctual ∧
    (∀ now, t.TakesDue now) ∧
    (∀ now later, now ≤ later →
      ((t.expire now).1.expire later).1 = (t.expire later).1 ∧
        ((t.expire now).2 ++ ((t.expire now).1.expire later).2).Perm (t.expire later).2) ∧
    (∀ e ∈ t.active, (t.dismiss e.id).1.NeverTold e.id ∧ t.clear.NeverTold e.id) ∧
    (∀ now, ∀ id ∈ (t.expire now).2, (t.expire now).1.NeverTold id) ∧
    ∀ notice now,
      (∀ id ∈ (t.push notice now).evicted, (t.push notice now).tray.NeverTold id) ∧
        ∃ gone kept, Queue.Evicts (max capacity 1) t.onShow gone kept ∧ gone.length ≤ 1 ∧
          t.push notice now =
            ⟨{ t with
                onShow := kept.push ⟨t.nextId, notice, now + notice.lifetime.getD lifetime⟩
                nextId := t.nextId + 1 }, t.nextId, gone.map Entry.id⟩ := by
  have htidy : t.Tidy := by
    rw [ht]
    exact (tidy_ofCapacity capacity lifetime).run history
  refine ⟨htidy, ?_, t.punctual, htidy.takesDue, ?_, ?_, ?_, ?_⟩
  · intro e he
    rw [ht] at he
    rcases putBy_of_mem_run he with hstart | hput
    · cases hstart
    · exact hput
  · exact fun now later h => ⟨expire_expire h t, perm_expire_expire h t⟩
  · exact fun e he => ⟨(htidy.lost_dismiss he).neverTold, (htidy.lost_clear he).neverTold⟩
  · exact fun now id hid => (htidy.lost_expired hid).neverTold
  · intro notice now
    refine ⟨fun id hid => (htidy.lost_evicted hid).neverTold, ?_⟩
    have hcapacity : t.capacity = max capacity 1 := by
      rw [ht, capacity_run]
      rfl
    have hlifetime : lifetime = t.lifetime := by
      rw [ht, lifetime_run]
      rfl
    rw [← hcapacity, hlifetime]
    exact htidy.exists_evicts notice now

/-- Two notices, of which the second one is put in the tray at an earlier time. -/
def backdated : List Change :=
  [.push ⟨.info, "A", "", some 100⟩ 1000, .push ⟨.info, "B", "", none⟩ 5]

/-- The hypotheses of `TorusRobot.Tray.notices_lapse_on_time` are met by notices that are due in the
order opposite to that in which they were put in the tray. -/
theorem notices_lapse_on_time_backdated :
    ∃ t, t = (ofCapacity 2 50).run backdated ∧ t.nextDeadline? = some 55 ∧
      (t.expire 54).2 = [] ∧ (t.expire 55).2 = [2] ∧ (t.expire 1100).2 = [1, 2] ∧
      ((t.expire 55).1.expire 1100).1 = (t.expire 1100).1 ∧ (t.expire 55).1.NeverTold 2 ∧
      (t.push ⟨.info, "C", "", none⟩ 0).tray.NeverTold 1 := by
  obtain ⟨-, -, hpunctual, -, htwice, -, hexpired, hpush⟩ :=
    notices_lapse_on_time 2 50 backdated rfl
  have hearliest : ((ofCapacity 2 50).run backdated).nextDeadline? = some 55 := by decide
  refine ⟨_, rfl, hearliest, hpunctual.before 55 54 hearliest (by decide), by decide, by decide,
    (htwice 55 1100 (by decide)).1, hexpired 55 2 (by decide), ?_⟩
  exact (hpush ⟨.info, "C", "", none⟩ 0).1 1 (by decide)

end Tray

end TorusRobot
