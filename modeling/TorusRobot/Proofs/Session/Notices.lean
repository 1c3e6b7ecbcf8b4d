/-
**What becomes of notices.**

Every notice is put in the tray under a number of its own and leaves it at most once: it makes room
for a later one, its time comes, it is dismissed, or a reset drops it.  Here both are read off the
tray alone, by comparing the numbers on show before an operation with those on show after it, and
not off the answers or the counters of the session; it is then a theorem that the counters, added
up over the four ways to go, account for every number that was ever issued.

Main definitions:

* `TorusRobot.Session.shown` — the numbers of the notices on show;
* `TorusRobot.Session.arrivals`, `TorusRobot.Session.departures` — the numbers that an operation
  brings, and those that it takes away;
* `TorusRobot.Session.Fate`, `TorusRobot.Session.issued`, `TorusRobot.Session.gone` — how a notice
  goes, and the numbers that came and went in a run;
* `TorusRobot.Session.Orderly` — the state of the tray that every operation preserves;
* `TorusRobot.Session.Accounted` — that every notice of a run is accounted for.

Main results:

* `TorusRobot.Session.shown_perform` — what every operation does to the numbers on show;
* `TorusRobot.Session.Orderly.perform`, `TorusRobot.Session.Orderly.run` — the tray stays in order;
* `TorusRobot.Session.Orderly.perm_perform`, `TorusRobot.Session.Orderly.perm_run` — what was on
  show or came is on show or has gone;
* `TorusRobot.Session.removed_run` — the counters count what has gone;
* `TorusRobot.Session.notices_are_accounted_for` — **every notice is accounted for**.
-/
import Mathlib.Algebra.GroupWithZero.Nat
import Mathlib.Data.List.Nodup
import TorusRobot.Proofs.Session.Gains

set_option relaxedAutoImplicit false
set_option autoImplicit false

namespace TorusRobot

/-! ### Lists of numbers -/

namespace Session

/-- Of a list without repetitions, what is not in a final part is the part before it. -/
theorem filter_notMem_drop {l : List Nat} (h : l.Nodup) (k : Nat) :
    (l.filter fun a => a ∉ l.drop k) = l.take k := by
  have hdisjoint : (l.take k).Disjoint (l.drop k) := by
    rw [← List.take_append_drop k l] at h
    exact List.disjoint_of_nodup_append h
  have hfirst : ((l.take k).filter fun a => a ∉ l.drop k) = l.take k := by
    rw [List.filter_eq_self]
    intro a ha
    exact decide_eq_true (hdisjoint ha)
  have hlast : ((l.drop k).filter fun a => a ∉ l.drop k) = [] := by
    rw [List.filter_eq_nil_iff]
    intro a ha hn
    exact of_decide_eq_true hn ha
  calc
    (l.filter fun a => a ∉ l.drop k) =
        ((l.take k ++ l.drop k).filter fun a => a ∉ l.drop k) := by rw [List.take_append_drop]
    _ = l.take k := by rw [List.filter_append, hfirst, hlast, List.append_nil]

/-- Of things told apart by their numbers, what is not among the numbers of some of them is the
numbers of the others. -/
theorem filter_notMem_map_filter {α : Type} {f : α → Nat} {l : List α} (h : (l.map f).Nodup)
    (p : α → Bool) :
    ((l.map f).filter fun a => a ∉ (l.filter p).map f) = (l.filter fun a => !p a).map f := by
  rw [List.filter_map]
  congr 1
  refine List.filter_congr ?_
  intro a ha
  have hiff : f a ∈ (l.filter p).map f ↔ p a = true := by
    constructor
    · intro hm
      obtain ⟨b, hb, hab⟩ := List.mem_map.1 hm
      obtain ⟨hbl, hpb⟩ := List.mem_filter.1 hb
      rwa [← List.inj_on_of_nodup_map h hbl ha hab]
    · intro hpa
      exact List.mem_map_of_mem (List.mem_filter.2 ⟨ha, hpa⟩)
  rw [Function.comp_apply, Bool.eq_iff_iff, decide_eq_true_eq, hiff, Bool.not_eq_true,
    Bool.not_eq_true']

/-- What is kept of a list without repetitions, and what is not, make up the list. -/
theorem perm_append_filter_notMem {l kept : List Nat} (hl : l.Nodup) (h : kept.Sublist l) :
    (kept ++ l.filter fun a => a ∉ kept).Perm l := by
  have hkept : kept.Perm (l.filter fun a => a ∈ kept) := by
    rw [List.perm_ext_iff_of_nodup (h.nodup hl) (hl.filter _)]
    intro a
    rw [List.mem_filter, decide_eq_true_eq]
    exact ⟨fun ha => ⟨h.subset ha, ha⟩, fun ha => ha.2⟩
  have hsplit := List.filter_append_perm (fun a => decide (a ∈ kept)) l
  simp only [← decide_not] at hsplit
  exact (hkept.append_right _).trans hsplit

/-! ### The numbers on show -/

/-- The numbers of the notices on show, oldest first. -/
def shown (s : Session) : List Nat := s.tray.active.map Tray.Entry.id

/-- The notice that an operation puts in the tray, if it does so. -/
def notice? (s : Session) : Operation → Option Notice
  | .submit line now => (s.submit line now).2.bind Outcome.notice
  | .reset _ => some s.resetNotice
  | .dismiss _ | .expire _ => none

/-- The numbers of the notices that stay on show in an operation.  A notice that is put in the tray
makes the oldest ones go that are too many for it. -/
def kept (s : Session) : Operation → List Nat
  | .submit line now =>
    if (s.notice? (.submit line now)).isSome then
      s.shown.drop (s.shown.length + 1 - s.tray.capacity)
    else s.shown
  | .reset _ => []
  | .dismiss id => s.shown.filter fun i => i != id
  | .expire now => (s.tray.active.filter fun e => !decide (e.deadline ≤ now)).map Tray.Entry.id

/-- The number that a notice takes which an operation puts in the tray. -/
def fresh? (s : Session) (op : Operation) : List Nat :=
  if (s.notice? op).isSome then [s.tray.nextId] else []

theorem kept_sublist (s : Session) (op : Operation) : (s.kept op).Sublist s.shown := by
  cases op with
  | submit line now =>
      rw [kept]
      split
      · exact List.drop_sublist _ _
      · exact List.Sublist.refl _
  | reset now => exact List.nil_sublist _
  | dismiss id => exact List.filter_sublist
  | expire now => exact List.Sublist.map _ List.filter_sublist

theorem shown_notify (s : Session) (notice : Notice) (now : Nat) :
    (s.notify notice now).1.shown =
      s.shown.drop (s.shown.length + 1 - s.tray.capacity) ++ [s.tray.nextId] := by
  simp [shown, notify, List.map_drop]

theorem shown_absorb (s : Session) (o : Outcome) (now : Nat) :
    (s.absorb o now).shown =
      if o.notice.isSome then
        s.shown.drop (s.shown.length + 1 - s.tray.capacity) ++ [s.tray.nextId]
      else s.shown := by
  cases h : o.notice with
  | none => simp [absorb, h, shown]
  | some notice =>
      simp only [absorb, h, shown_notify]
      rfl

/-- **What every operation does to the numbers on show**: some stay, in the same order, and a new
one may come behind them. -/
theorem shown_perform (s : Session) (op : Operation) :
    (s.perform op).1.shown = s.kept op ++ s.fresh? op := by
  cases op with
  | submit line now =>
      rw [perform_submit, kept, fresh?, notice?]
      cases h : (s.submit line now).2 with
      | none => simp [submit_of_none h]
      | some o =>
          rw [submit_of_some h, shown_absorb, Option.bind_some]
          split
          · rfl
          · rw [List.append_nil]
            rfl
  | reset now =>
      -- of the empty tray nothing has to go
      rw [perform_reset, reset, shown_notify]
      exact congrArg (· ++ [s.tray.nextId]) List.drop_nil
  | dismiss id =>
      rw [perform_dismiss]
      simp only [shown, kept, fresh?, notice?, dismiss, Tray.active_dismiss, List.filter_map,
        Option.isSome_none, Bool.false_eq_true, if_false, List.append_nil]
      rfl
  | expire now =>
      rw [perform_expire]
      simp [shown, kept, fresh?, notice?, expire]

/-- A number is taken exactly when a notice is put in the tray. -/
theorem nextId_perform (s : Session) (op : Operation) :
    (s.perform op).1.tray.nextId = s.tray.nextId + (s.fresh? op).length := by
  cases op with
  | submit line now =>
      rw [perform_submit, fresh?, notice?]
      cases h : (s.submit line now).2 with
      | none => simp [submit_of_none h]
      | some o =>
          rw [submit_of_some h, nextId_absorb, Option.bind_some]
          split <;> rfl
  | reset now => rfl
  | dismiss id => rfl
  | expire now => rfl

/-- And then it is counted. -/
theorem emitted_gain (s : Session) (op : Operation) :
    (s.gain op).emitted = (s.fresh? op).length := by
  cases op with
  | submit line now =>
      rw [gain, fresh?, notice?]
      cases h : (s.submit line now).2 with
      | none => rfl
      | some o =>
          simp only [outcomeGain, emitted_countStatus, Option.bind_some]
          split <;> rfl
  | reset now => rfl
  | dismiss id => rfl
  | expire now => rfl

theorem capacity_perform (s : Session) (op : Operation) :
    (s.perform op).1.tray.capacity = s.tray.capacity := by
  cases op with
  | submit line now =>
      rw [perform_submit]
      cases h : (s.submit line now).2 with
      | none => rw [submit_of_none h]
      | some o =>
          rw [submit_of_some h]
          cases hn : o.notice with
          | none => simp only [absorb, hn]
          | some notice => simp only [absorb, hn, notify, Tray.push]
  | reset now => rfl
  | dismiss id => rfl
  | expire now => rfl

/-! ### Coming and going -/

/-- The numbers on show after an operation that were not on show before it. -/
def arrivals (s : Session) (op : Operation) : List Nat :=
  (s.perform op).1.shown.filter fun id => id ∉ s.shown

/-- The numbers on show before an operation that are not on show after it. -/
def departures (s : Session) (op : Operation) : List Nat :=
  s.shown.filter fun id => id ∉ (s.perform op).1.shown

/-- How a notice goes. -/
inductive Fate where
  /-- It makes room for a later one. -/
  | evicted
  | expired
  | dismissed
  /-- A reset empties the tray. -/
  | dropped
deriving DecidableEq, Repr

/-- How notices go in an operation, if any go. -/
def Operation.fate : Operation → Fate
  | .submit _ _ => .evicted
  | .reset _ => .dropped
  | .dismiss _ => .dismissed
  | .expire _ => .expired

/-- The numbers that came in a run, in order. -/
def issued (s : Session) : List Operation → List Nat
  | [] => []
  | op :: ops => s.arrivals op ++ (s.perform op).1.issued ops

/-- The numbers that went in a run, in order, and how each of them went. -/
def gone (s : Session) : List Operation → List (Nat × Fate)
  | [] => []
  | op :: ops => (s.departures op).map (fun id => (id, op.fate)) ++ (s.perform op).1.gone ops

/-- How many notices were on show just before each reset of a run. -/
def sizesAtResets (s : Session) : List Operation → List Nat
  | [] => []
  | op :: ops =>
    (if op.fate = .dropped then [s.shown.length] else []) ++ (s.perform op).1.sizesAtResets ops

theorem gone_append (s : Session) (ops ops' : List Operation) :
    s.gone (ops ++ ops') = s.gone ops ++ (s.run ops).gone ops' := by
  induction ops generalizing s with
  | nil => rfl
  | cons op ops ih => rw [List.cons_append, gone, gone, ih, run_cons, List.append_assoc]

/-! ### The tray in order -/

/-- The tray is in order: numbers grow from the oldest notice to the newest and are below the next
one, and there are no more notices than the settings allow. -/
structure Orderly (s : Session) : Prop where
  capacity : s.tray.capacity = s.settings.trayCapacity
  capacity_pos : 0 < s.settings.trayCapacity
  ordered : s.shown.Pairwise (· < ·)
  below : ∀ id ∈ s.shown, id < s.tray.nextId
  bounded : s.shown.length ≤ s.settings.trayCapacity

/-- In a fresh session it is. -/
theorem orderly_start {A : Settings} {s : Session} (h : start A = .ok s) : Orderly s := by
  obtain ⟨hcheck, rfl⟩ := start_eq_ok_iff.1 h
  obtain ⟨-, -, htray, -⟩ := Settings.check_eq_ok_iff.1 hcheck
  refine ⟨?_, Nat.pos_of_ne_zero htray, List.Pairwise.nil, nofun, Nat.zero_le _⟩
  simp only [fresh, Tray.ofCapacity]
  omega

namespace Orderly

variable {s : Session}

theorem nodup (h : Orderly s) : s.shown.Nodup :=
  h.ordered.imp fun hab => Nat.ne_of_lt hab

/-- A number that is about to be issued is not on show. -/
theorem notMem_of_mem_fresh? (h : Orderly s) (op : Operation) :
    ∀ id ∈ s.fresh? op, id ∉ s.shown := by
  intro id hid hshown
  have hlt := h.below id hshown
  rw [fresh?] at hid
  split at hid
  · rw [List.mem_singleton.1 hid] at hlt
    omega
  · cases hid

/-- When a notice is put in a full tray, one has to go; otherwise none has. -/
theorem surplus_eq (h : Orderly s) :
    s.shown.length + 1 - s.tray.capacity =
      if s.shown.length = s.settings.trayCapacity then 1 else 0 := by
  have hbounded := h.bounded
  have hpos := h.capacity_pos
  rw [h.capacity]
  split <;> omega

/-- A notice that is put in a full tray takes the place of the oldest one; otherwise none has to
go. -/
theorem evicted_push (h : Orderly s) (notice : Notice) (now : Nat) :
    (s.tray.push notice now).evicted =
      if s.shown.length = s.settings.trayCapacity then s.shown.take 1 else [] := by
  have hsurplus := h.surplus_eq
  rw [shown, List.length_map] at hsurplus
  rw [Tray.evicted_push, hsurplus, shown, List.length_map, List.map_take]
  split <;> rfl

theorem length_kept_fresh?_le (h : Orderly s) (op : Operation) :
    (s.kept op ++ s.fresh? op).length ≤ s.settings.trayCapacity := by
  have hsub := (s.kept_sublist op).length_le
  have hbounded := h.bounded
  have hpos := h.capacity_pos
  rw [List.length_append, fresh?]
  split
  · rename_i hn
    cases op with
    | submit line now =>
        rw [kept, if_pos hn, List.length_drop, h.capacity, List.length_singleton]
        omega
    | reset now =>
        rw [kept, List.length_nil, List.length_singleton]
        omega
    | dismiss id => cases hn
    | expire now => cases hn
  · rw [List.length_nil]
    omega

/-- **Every operation leaves the tray in order.** -/
theorem perform (h : Orderly s) (op : Operation) : Orderly (s.perform op).1 where
  capacity := by rw [capacity_perform, settings_perform, h.capacity]
  capacity_pos := by
    rw [settings_perform]
    exact h.capacity_pos
  ordered := by
    rw [shown_perform, List.pairwise_append]
    refine ⟨h.ordered.sublist (s.kept_sublist op), ?_, ?_⟩
    · rw [fresh?]
      split
      · exact List.pairwise_singleton _ _
      · exact List.Pairwise.nil
    · intro a ha b hb
      have hlt := h.below a ((s.kept_sublist op).subset ha)
      rw [fresh?] at hb
      split at hb
      · rwa [List.mem_singleton.1 hb]
      · cases hb
  below := by
    intro id hid
    rw [nextId_perform]
    rw [shown_perform] at hid
    rcases List.mem_append.1 hid with hid | hid
    · have hlt := h.below id ((s.kept_sublist op).subset hid)
      omega
    · rw [fresh?] at hid ⊢
      split at hid
      · rename_i hn
        rw [List.mem_singleton.1 hid, if_pos hn, List.length_singleton]
        omega
      · cases hid
  bounded := by
    rw [shown_perform, settings_perform]
    exact h.length_kept_fresh?_le op

/-- **The tray is in order in every run.** -/
theorem run (h : Orderly s) (ops : List Operation) : Orderly (s.run ops) := by
  induction ops generalizing s with
  | nil => exact h
  | cons op ops ih => exact ih (h.perform op)

/-! ### What an operation brings and takes away -/

/-- The numbers that come are those of the notices put in the tray. -/
theorem arrivals_eq (h : Orderly s) (op : Operation) : s.arrivals op = s.fresh? op := by
  have hkept : ((s.kept op).filter fun id => id ∉ s.shown) = [] := by
    rw [List.filter_eq_nil_iff]
    intro id hid hn
    exact of_decide_eq_true hn ((s.kept_sublist op).subset hid)
  have hfresh : ((s.fresh? op).filter fun id => id ∉ s.shown) = s.fresh? op := by
    rw [List.filter_eq_self]
    intro id hid
    exact decide_eq_true (h.notMem_of_mem_fresh? op id hid)
  rw [arrivals, shown_perform, List.filter_append, hkept, hfresh, List.nil_append]

/-- The numbers that go are those that do not stay. -/
theorem departures_eq (h : Orderly s) (op : Operation) :
    s.departures op = s.shown.filter fun id => id ∉ s.kept op := by
  rw [departures, shown_perform]
  refine List.filter_congr ?_
  intro id hid
  have hfresh : id ∉ s.fresh? op := fun hf => h.notMem_of_mem_fresh? op id hf hid
  simp [hfresh]

/-- **What was on show or comes is on show afterwards or goes**, each number once. -/
theorem perm_perform (h : Orderly s) (op : Operation) :
    ((s.perform op).1.shown ++ s.departures op).Perm (s.shown ++ s.arrivals op) := by
  rw [shown_perform, h.departures_eq, h.arrivals_eq]
  have hsplit := perm_append_filter_notMem h.nodup (s.kept_sublist op)
  refine List.Perm.trans ?_ (hsplit.append_right (s.fresh? op))
  rw [List.append_assoc, List.append_assoc]
  exact List.perm_append_comm.append_left (s.kept op)

/-- A line whose notice finds the tray full makes the oldest notice go, and no other line makes any
go. -/
theorem departures_submit (h : Orderly s) (line : String) (now : Nat) :
    s.departures (.submit line now) =
      if (s.notice? (.submit line now)).isSome ∧ s.shown.length = s.settings.trayCapacity then
        s.shown.take 1
      else [] := by
  rw [h.departures_eq, kept, h.surplus_eq]
  by_cases hn : (s.notice? (.submit line now)).isSome = true
  · rw [if_pos hn, filter_notMem_drop h.nodup]
    by_cases hfull : s.shown.length = s.settings.trayCapacity
    · rw [if_pos hfull, if_pos ⟨hn, hfull⟩]
    · rw [if_neg hfull, if_neg fun hboth => hfull hboth.2, List.take_zero]
  · rw [if_neg hn, if_neg fun hboth => hn hboth.1, List.filter_eq_nil_iff]
    intro id hid hout
    exact of_decide_eq_true hout hid

/-- A reset drops all that is on show. -/
theorem departures_reset (h : Orderly s) (now : Nat) : s.departures (.reset now) = s.shown := by
  rw [h.departures_eq, kept, List.filter_eq_self]
  intro id _
  rfl

/-- The numbers that go when their time has come are those that are told. -/
theorem departures_expire (h : Orderly s) (now : Nat) :
    s.departures (.expire now) = (s.expire now).2 := by
  rw [h.departures_eq, kept, shown, filter_notMem_map_filter h.nodup]
  simp [Session.expire, Tray.expire]

/-- The number that is dismissed goes, if it is told to have been on show. -/
theorem departures_dismiss (h : Orderly s) (id : Nat) :
    s.departures (.dismiss id) = if (s.dismiss id).2 then [id] else [] := by
  have hgone : s.departures (.dismiss id) = s.shown.filter fun i => i == id := by
    rw [h.departures_eq, kept]
    refine List.filter_congr ?_
    intro i hi
    by_cases hid : i = id <;> simp [hid, hi]
  have hany : (s.dismiss id).2 = decide (id ∈ s.shown) := by
    rw [Bool.eq_iff_iff, decide_eq_true_eq]
    simp [Session.dismiss, Tray.dismiss, shown]
  rw [hgone, hany, List.filter_beq]
  by_cases hid : id ∈ s.shown
  · rw [List.count_eq_one_of_mem h.nodup hid]
    simp [hid]
  · rw [List.count_eq_zero_of_not_mem hid]
    simp [hid]

/-! ### What comes and goes in a run -/

/-- Numbers are issued one after another, and the next one goes on from there. -/
theorem issued_eq (h : Orderly s) (ops : List Operation) :
    s.issued ops = List.range' s.tray.nextId (s.issued ops).length ∧
      (s.run ops).tray.nextId = s.tray.nextId + (s.issued ops).length := by
  induction ops generalizing s with
  | nil => exact ⟨rfl, rfl⟩
  | cons op ops ih =>
      obtain ⟨hissued, hnext⟩ := ih (h.perform op)
      rw [nextId_perform] at hissued hnext
      have hfresh : s.fresh? op = List.range' s.tray.nextId (s.fresh? op).length := by
        rw [fresh?]
        split <;> rfl
      have hrange : List.range' s.tray.nextId (s.fresh? op).length ++
          List.range' (s.tray.nextId + (s.fresh? op).length) ((s.perform op).1.issued ops).length =
            List.range' s.tray.nextId
              ((s.fresh? op).length + ((s.perform op).1.issued ops).length) :=
        List.range'_append_1
      rw [← hissued, ← hfresh] at hrange
      rw [issued, h.arrivals_eq, run_cons, List.length_append, hnext]
      exact ⟨hrange, Nat.add_assoc _ _ _⟩

/-- Every number that is issued is counted. -/
theorem emitted_run (h : Orderly s) (ops : List Operation) :
    (s.run ops).tally.emitted = s.tally.emitted + (s.issued ops).length := by
  induction ops generalizing s with
  | nil => rfl
  | cons op ops ih =>
      have hemitted : (s.perform op).1.tally.emitted = s.tally.emitted + (s.fresh? op).length := by
        rw [tally_perform, ← emitted_gain]
        rfl
      rw [run_cons, ih (h.perform op), hemitted, issued, h.arrivals_eq, List.length_append,
        Nat.add_assoc]

/-- **What was on show or came is on show at the end or has gone**, each number once. -/
theorem perm_run (h : Orderly s) (ops : List Operation) :
    ((s.run ops).shown ++ (s.gone ops).map Prod.fst).Perm (s.shown ++ s.issued ops) := by
  induction ops generalizing s with
  | nil => exact List.Perm.refl _
  | cons op ops ih =>
      have hfirst : ((s.departures op).map fun id => (id, op.fate)).map Prod.fst =
          s.departures op := by
        rw [List.map_map]
        exact List.map_id _
      rw [run_cons, gone, List.map_append, hfirst, issued]
      -- what goes now is put in front, and the rest of the run is as claimed
      refine (List.perm_append_comm_assoc _ _ _).trans ?_
      refine ((ih (h.perform op)).append_left (s.departures op)).trans ?_
      refine (List.perm_append_comm_assoc _ _ _).trans ?_
      rw [← List.append_assoc, ← List.append_assoc]
      exact (h.perm_perform op).append_right _

end Orderly

/-! ### Counting -/

/-- How many notices were counted as gone in a given way.  What a reset drops is not counted. -/
def removed (t : Tally) : Fate → Nat
  | .evicted => t.evicted
  | .expired => t.expired
  | .dismissed => t.dismissed
  | .dropped => 0

/-- How many notices went in a given way in a run. -/
def countGone (s : Session) (ops : List Operation) (fate : Fate) : Nat :=
  (s.gone ops).countP fun x => x.2 = fate

theorem countGone_cons (s : Session) (op : Operation) (ops : List Operation) (fate : Fate) :
    s.countGone (op :: ops) fate =
      (if op.fate = fate then (s.departures op).length else 0) +
        (s.perform op).1.countGone ops fate := by
  rw [countGone, gone, List.countP_append, List.countP_map]
  congr 1
  split
  · rename_i hfate
    rw [List.countP_eq_length]
    intro id _
    exact decide_eq_true hfate
  · rename_i hfate
    rw [List.countP_eq_zero]
    intro id _ hin
    exact hfate (of_decide_eq_true hin)

theorem removed_add (t d : Tally) (fate : Fate) :
    removed (t + d) fate = removed t fate + removed d fate := by
  cases fate <;> rfl

theorem removed_countStatus (t : Tally) (u : Status) (fate : Fate) :
    removed (t.countStatus u) fate = removed t fate := by
  cases u <;> cases fate <;> rfl

/-- The notices that have to make room for the notice of an outcome are counted. -/
theorem crowdedOut_eq {s : Session} (h : Orderly s) {line : String} {now : Nat} {o : Outcome}
    (ho : (s.submit line now).2 = some o) :
    s.crowdedOut o now = (s.departures (.submit line now)).length := by
  rw [h.departures_submit, notice?, ho, Option.bind_some, crowdedOut]
  cases o.notice with
  | none => rfl
  | some notice =>
      dsimp only
      rw [h.evicted_push]
      simp only [Option.isSome_some, true_and]

/-- An operation counts the notices that go in it, unless it is a reset. -/
theorem removed_gain {s : Session} (h : Orderly s) (op : Operation) {fate : Fate}
    (hfate : fate ≠ .dropped) :
    removed (s.gain op) fate = if op.fate = fate then (s.departures op).length else 0 := by
  cases op with
  | submit line now =>
      rw [gain]
      cases ho : (s.submit line now).2 with
      | none =>
          have hnone : s.departures (.submit line now) = [] := by
            rw [h.departures_submit, notice?, ho]
            rfl
          rw [hnone]
          cases fate <;> rfl
      | some o =>
          simp only [outcomeGain, removed_countStatus, crowdedOut_eq h ho]
          cases fate <;> rfl
  | reset now =>
      have hother : Operation.fate (.reset now) ≠ fate := hfate.symm
      rw [if_neg hother]
      cases fate <;> rfl
  | dismiss id =>
      rw [h.departures_dismiss, gain]
      cases (s.dismiss id).2 <;> cases fate <;> rfl
  | expire now =>
      rw [h.departures_expire, gain]
      cases fate <;> rfl

/-- **The counters count what has gone.** -/
theorem removed_run {s : Session} (h : Orderly s) (ops : List Operation) {fate : Fate}
    (hfate : fate ≠ .dropped) :
    removed (s.run ops).tally fate = removed s.tally fate + s.countGone ops fate := by
  induction ops generalizing s with
  | nil => rfl
  | cons op ops ih =>
      rw [run_cons, ih (h.perform op), tally_perform, removed_add, removed_gain h op hfate,
        countGone_cons, Nat.add_assoc]

/-- A reset drops what is on show, and nothing else drops anything. -/
theorem countGone_dropped {s : Session} (h : Orderly s) (ops : List Operation) :
    s.countGone ops .dropped = (s.sizesAtResets ops).sum := by
  induction ops generalizing s with
  | nil => rfl
  | cons op ops ih =>
      rw [countGone_cons, sizesAtResets, List.sum_append, ih (h.perform op)]
      congr 1
      cases op with
      | reset now =>
          rw [h.departures_reset]
          rfl
      | submit line now => rfl
      | dismiss id => rfl
      | expire now => rfl

/-- What has gone has gone in one of four ways. -/
theorem length_gone (s : Session) (ops : List Operation) :
    (s.gone ops).length = s.countGone ops .evicted + s.countGone ops .expired +
      s.countGone ops .dismissed + s.countGone ops .dropped := by
  have hsplit (xs : List (Nat × Fate)) :
      xs.length = xs.countP (fun x => x.2 = .evicted) + xs.countP (fun x => x.2 = .expired) +
        xs.countP (fun x => x.2 = .dismissed) + xs.countP (fun x => x.2 = .dropped) := by
    induction xs with
    | nil => rfl
    | cons x xs ih =>
        simp only [List.length_cons, List.countP_cons, ih]
        cases x.2 <;> simp <;> omega
  exact hsplit (s.gone ops)

/-! ### From the start -/

section FromTheStart

variable {A : Settings} {s : Session}

theorem emitted_eq_length_issued (hs : start A = .ok s) (ops : List Operation) :
    (s.run ops).tally.emitted = (s.issued ops).length := by
  have hcount := (orderly_start hs).emitted_run ops
  obtain ⟨-, rfl⟩ := start_eq_ok_iff.1 hs
  rw [hcount]
  exact Nat.zero_add _

/-- The next number is the one behind all that were issued. -/
theorem nextId_eq_emitted (hs : start A = .ok s) (ops : List Operation) :
    (s.run ops).tray.nextId = (s.run ops).tally.emitted + 1 := by
  have hnext := ((orderly_start hs).issued_eq ops).2
  rw [hnext, emitted_eq_length_issued hs, Nat.add_comm]
  obtain ⟨-, rfl⟩ := start_eq_ok_iff.1 hs
  rfl

theorem issued_eq_range' (hs : start A = .ok s) (ops : List Operation) :
    s.issued ops = List.range' 1 (s.run ops).tally.emitted := by
  have hissued := ((orderly_start hs).issued_eq ops).1
  rw [← emitted_eq_length_issued hs] at hissued
  obtain ⟨-, rfl⟩ := start_eq_ok_iff.1 hs
  exact hissued

theorem perm_issued (hs : start A = .ok s) (ops : List Operation) :
    ((s.run ops).shown ++ (s.gone ops).map Prod.fst).Perm (s.issued ops) := by
  have hperm := (orderly_start hs).perm_run ops
  obtain ⟨-, rfl⟩ := start_eq_ok_iff.1 hs
  exact hperm

/-- The counters tell how many notices have gone in each way but by a reset. -/
theorem counters_eq (hs : start A = .ok s) (ops : List Operation) :
    (s.run ops).tally.evicted = s.countGone ops .evicted ∧
      (s.run ops).tally.expired = s.countGone ops .expired ∧
      (s.run ops).tally.dismissed = s.countGone ops .dismissed := by
  have hremoved (fate : Fate) (hfate : fate ≠ .dropped) :
      removed (s.run ops).tally fate = s.countGone ops fate := by
    rw [removed_run (orderly_start hs) ops hfate]
    obtain ⟨-, rfl⟩ := start_eq_ok_iff.1 hs
    cases fate <;> exact Nat.zero_add _
  exact ⟨hremoved .evicted nofun, hremoved .expired nofun, hremoved .dismissed nofun⟩

/-- What has gone is not on show again, whatever is done next. -/
theorem notMem_shown_of_mem_gone (hs : start A = .ok s) {ops : List Operation} {x : Nat × Fate}
    (hx : x ∈ s.gone ops) : x.1 ∉ (s.run ops).shown := by
  have hnodup : ((s.run ops).shown ++ (s.gone ops).map Prod.fst).Nodup := by
    rw [(perm_issued hs ops).nodup_iff, issued_eq_range' hs]
    exact List.nodup_range'
  intro hshown
  exact List.disjoint_of_nodup_append hnodup hshown (List.mem_map_of_mem hx)

/-- The notices that were issued are on show or have gone in one of four ways. -/
theorem emitted_eq_sum (hs : start A = .ok s) (ops : List Operation) :
    (s.run ops).tally.emitted = (s.run ops).shown.length + (s.run ops).tally.evicted +
      (s.run ops).tally.expired + (s.run ops).tally.dismissed + (s.sizesAtResets ops).sum := by
  obtain ⟨hevicted, hexpired, hdismissed⟩ := counters_eq hs ops
  have hdropped := countGone_dropped (orderly_start hs) ops
  have hgone := length_gone s ops
  have hlength := (perm_issued hs ops).length_eq
  rw [List.length_append, List.length_map] at hlength
  rw [emitted_eq_length_issued hs]
  omega

end FromTheStart

/-! ### Every notice is accounted for -/

/-- What is to be said of the notices of a session that has come from `s` by the operations. -/
structure Accounted (s : Session) (ops : List Operation) : Prop where
  /-- The numbers that came are one, two, three and so on, also beyond resets, and they are
  counted. -/
  issued : s.issued ops = List.range' 1 (s.run ops).tally.emitted
  /-- The notices on show are in the order of their numbers. -/
  ordered : (s.run ops).shown.Pairwise (· < ·)
  bounded : (s.run ops).shown.length ≤ s.settings.trayCapacity
  /-- A notice that is put in the tray now makes the oldest one go if the tray is full, and none
  otherwise. -/
  push : ∀ notice now, ((s.run ops).tray.push notice now).evicted =
    if (s.run ops).shown.length = s.settings.trayCapacity then (s.run ops).shown.take 1 else []
  /-- That is what a line does whose outcome has a notice, and another line does nothing. -/
  submit : ∀ line now,
    (s.run ops).arrivals (.submit line now) =
      (if ((s.run ops).notice? (.submit line now)).isSome then [(s.run ops).tally.emitted + 1]
        else []) ∧
    (s.run ops).departures (.submit line now) =
      if ((s.run ops).notice? (.submit line now)).isSome ∧
          (s.run ops).shown.length = s.settings.trayCapacity then
        (s.run ops).shown.take 1
      else []
  /-- A reset drops all that is on show, and only its own notice is on show after it. -/
  reset : ∀ now, (s.run ops).departures (.reset now) = (s.run ops).shown ∧
    ((s.run ops).reset now).1.shown = [((s.run ops).reset now).2] ∧
    ((s.run ops).reset now).2 = (s.run ops).tally.emitted + 1
  /-- Every number that was issued is on show or has gone, and it is so only once: no number is on
  show and gone, and none has gone twice or in two ways. -/
  whereabouts : ((s.run ops).shown ++ (s.gone ops).map Prod.fst).Perm (s.issued ops) ∧
    ((s.run ops).shown ++ (s.gone ops).map Prod.fst).Nodup
  /-- What has gone stays so, whatever is done next. -/
  final : ∀ ops', ∀ x ∈ s.gone ops,
    x ∈ s.gone (ops ++ ops') ∧ x.1 ∉ (s.run (ops ++ ops')).shown
  /-- The counters tell how many notices have gone in each way, and what the tray held before
  resets is what they dropped. -/
  counters : (s.run ops).tally.evicted = s.countGone ops .evicted ∧
    (s.run ops).tally.expired = s.countGone ops .expired ∧
    (s.run ops).tally.dismissed = s.countGone ops .dismissed ∧
    (s.sizesAtResets ops).sum = s.countGone ops .dropped
  balance : (s.run ops).tally.emitted = (s.run ops).shown.length + (s.run ops).tally.evicted +
    (s.run ops).tally.expired + (s.run ops).tally.dismissed + (s.sizesAtResets ops).sum
  /-- No counter decreases in what is done next. -/
  growing : ∀ ops', (s.run ops).tally ≤ (s.run (ops ++ ops')).tally
  /-- Commands are the lines that had an outcome, and every one of them has one status. -/
  commands : (s.run ops).tally.commands = (s.outcomes ops).length ∧
    (s.run ops).tally.commands = (s.run ops).tally.ok + (s.run ops).tally.blocked +
      (s.run ops).tally.invalid + (s.run ops).tally.notPlaced

/-- **Every notice is accounted for.**  In a session that valid settings allow, whatever is done in
it and at whatever times: notices are numbered from one on and no number is used twice; the tray
holds the newest of them in order and within its capacity, where a new notice makes the oldest one
go exactly if the tray is full; every notice is on show, or has gone in exactly one of four ways for
good; and the counters, which never decrease, say so. -/
theorem notices_are_accounted_for {A : Settings} {s : Session} (hs : start A = .ok s)
    (ops : List Operation) : Accounted s ops := by
  have hstart := orderly_start hs
  have horderly := hstart.run ops
  have hsettings := settings_run s ops
  have hissued := issued_eq_range' hs ops
  have hperm := perm_issued hs ops
  constructor
  · exact hissued
  · exact horderly.ordered
  · rw [← hsettings]
    exact horderly.bounded
  · intro notice now
    rw [← hsettings]
    exact horderly.evicted_push notice now
  · intro line now
    rw [horderly.arrivals_eq, fresh?, nextId_eq_emitted hs, ← hsettings]
    exact ⟨rfl, horderly.departures_submit line now⟩
  · intro now
    have hshown := shown_perform (s.run ops) (.reset now)
    rw [perform_reset] at hshown
    refine ⟨horderly.departures_reset now, ?_, ?_⟩
    · rw [hshown]
      rfl
    · rw [reset_snd, nextId_eq_emitted hs]
  · refine ⟨hperm, ?_⟩
    rw [hperm.nodup_iff, hissued]
    exact List.nodup_range'
  · intro ops' x hx
    have hstays : x ∈ s.gone (ops ++ ops') := by
      rw [gone_append]
      exact List.mem_append_left _ hx
    exact ⟨hstays, notMem_shown_of_mem_gone hs hstays⟩
  · obtain ⟨hevicted, hexpired, hdismissed⟩ := counters_eq hs ops
    exact ⟨hevicted, hexpired, hdismissed, (countGone_dropped hstart ops).symm⟩
  · exact emitted_eq_sum hs ops
  · intro ops'
    rw [run_append]
    exact tally_le_run _ _
  · obtain ⟨-, rfl⟩ := start_eq_ok_iff.1 hs
    refine ⟨?_, commands_eq_sum rfl ops⟩
    rw [commands_run]
    exact Nat.zero_add _

/-- Settings of a tray with room for two notices. -/
def narrow : Settings := { trayCapacity := 2, casePolicy := .exact }

/-- A third notice comes while two are on show, one is dismissed, one is dropped by a reset, and the
notice of the reset expires, at times that go back and forth. -/
def eventful : List Operation :=
  [.submit "MOVE" 5, .submit "REPORT" 3, .submit "LEFT" 9, .dismiss 2, .reset 1, .dismiss 2,
    .submit " " 8, .expire 2601, .submit "RIGHT" 0]

/-- The hypothesis of `TorusRobot.Session.notices_are_accounted_for` is met by a session in which
notices go in all four ways. -/
theorem notices_are_accounted_for_eventful :
    ∃ s, start narrow = .ok s ∧ Accounted s eventful ∧
      s.gone eventful = [(1, .evicted), (2, .dismissed), (3, .dropped), (4, .expired)] ∧
      (s.run eventful).shown = [5] ∧ (s.run eventful).tally.emitted = 5 := by
  have hs : start narrow = .ok (fresh narrow) := start_eq_ok_iff.2 ⟨rfl, rfl⟩
  have h := notices_are_accounted_for hs eventful
  refine ⟨fresh narrow, hs, h, ?_, ?_, ?_⟩
  · decide +kernel
  · decide +kernel
  · decide +kernel

end Session

end TorusRobot
