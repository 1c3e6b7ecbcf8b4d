/-
**A reset forgets everything but the counters.**

After a reset a session goes on as one that has never done anything else, except that its numbers
do not start again: lines of the journal and notices are numbered on, each by a constant more than
in the other session.  So two sessions are compared up to a shift of the numbers of lines by `p`
and of those of notices by `q`.  Whoever refers to a notice by its number has to shift it too; then
every operation gives the same answer up to the shift, adds the same to all counters, and leaves
sessions that are shifted again.  Numbers of notices from before the reset mean nothing any more.

Main definitions:

* `TorusRobot.Journal.Shifted`, `TorusRobot.Tray.Shifted` — equality up to a shift of numbers;
* `TorusRobot.Session.Shifted` — the same for sessions, apart from what they have counted;
* `TorusRobot.Session.Operation.shift`, `TorusRobot.Session.Answer.shift` — operations that refer
  to shifted numbers, and answers that tell them.

Main results:

* `TorusRobot.Session.Shifted.perform`, `TorusRobot.Session.Shifted.run` — **shifted sessions go on
  alike**;
* `TorusRobot.Session.shifted_reset` — resets leave shifted sessions, whatever came before;
* `TorusRobot.Session.reset_forgets_all_but_counters` — **a reset forgets everything but the
  counters**.
-/
import TorusRobot.Proofs.Session.Notices
import TorusRobot.Proofs.Session.Worlds
import TorusRobot.Recording.Digest

set_option relaxedAutoImplicit false
set_option autoImplicit false

namespace TorusRobot

/-! ### Journals -/

namespace Journal

/-- The entry with a number greater by `p`. -/
def Entry.shift (p : Nat) (e : Entry) : Entry := { e with id := e.id + p }

/-- The same lines in both journals, with numbers greater by `p` in the first. -/
structure Shifted (p : Nat) (j k : Journal) : Prop where
  capacity : j.capacity = k.capacity
  entries : j.entries = k.entries.map (Entry.shift p)
  nextId : j.nextId = k.nextId + p

namespace Shifted

variable {p : Nat} {j k : Journal}

/-- A line that is added makes the same lines go. -/
theorem push (h : Shifted p j k) (line : LogLine) :
    Shifted p (j.push line).1 (k.push line).1 ∧ (j.push line).2 = (k.push line).2 := by
  have hlength : j.entries.length = k.entries.length := by rw [h.entries, List.length_map]
  refine ⟨⟨?_, ?_, ?_⟩, ?_⟩
  · rw [capacity_push, capacity_push, h.capacity]
  · rw [entries_push, entries_push, hlength, h.capacity, h.entries, h.nextId, List.map_append,
      List.map_drop]
    rfl
  · rw [nextId_push, nextId_push, h.nextId]
    omega
  · rw [push_snd, push_snd, List.length_take, List.length_take, hlength, h.capacity]

/-- So do lines that are added one after another. -/
theorem append (h : Shifted p j k) (lines : List LogLine) :
    Shifted p (j.append lines).1 (k.append lines).1 ∧
      (j.append lines).2 = (k.append lines).2 := by
  induction lines generalizing j k with
  | nil => exact ⟨h, rfl⟩
  | cons line lines ih =>
      obtain ⟨hpush, hgone⟩ := h.push line
      obtain ⟨hrest, hmore⟩ := ih hpush
      refine ⟨hrest, ?_⟩
      simp only [Journal.append, hgone, hmore]

end Shifted

/-- Journals of one capacity are shifted when they are cleared. -/
theorem shifted_clear {p : Nat} {j k : Journal} (hcapacity : j.capacity = k.capacity)
    (hnext : j.nextId = k.nextId + p) : Shifted p j.clear k.clear :=
  ⟨hcapacity, rfl, hnext⟩

end Journal

/-! ### Trays -/

namespace Tray

/-- The notice with a number greater by `q`. -/
def Entry.shift (q : Nat) (e : Entry) : Entry := { e with id := e.id + q }

/-- The same notices in both trays until the same deadlines, with numbers greater by `q` in the
first. -/
structure Shifted (q : Nat) (t u : Tray) : Prop where
  capacity : t.capacity = u.capacity
  lifetime : t.lifetime = u.lifetime
  active : t.active = u.active.map (Entry.shift q)
  nextId : t.nextId = u.nextId + q

namespace Shifted

variable {q : Nat} {t u : Tray}

/-- A notice that is put in both trays makes the same number of notices go. -/
theorem push (h : Shifted q t u) (notice : Notice) (now : Nat) :
    Shifted q (t.push notice now).tray (u.push notice now).tray ∧
      (t.push notice now).evicted.length = (u.push notice now).evicted.length := by
  have hlength : t.active.length = u.active.length := by rw [h.active, List.length_map]
  refine ⟨⟨h.capacity, h.lifetime, ?_, ?_⟩, ?_⟩
  · rw [active_push, active_push, hlength, h.capacity, h.active, h.nextId, List.map_append,
      List.map_drop, deadline, deadline, h.lifetime]
    rfl
  · rw [nextId_push, nextId_push, h.nextId]
    omega
  · rw [evicted_push, evicted_push, List.length_map, List.length_map, List.length_take,
      List.length_take, hlength, h.capacity]

/-- The notice that is dismissed is the one whose number is greater by `q`. -/
theorem dismiss (h : Shifted q t u) (id : Nat) :
    Shifted q (t.dismiss (id + q)).1 (u.dismiss id).1 ∧
      (t.dismiss (id + q)).2 = (u.dismiss id).2 := by
  have hsame (i : Nat) : (i + q == id + q) = (i == id) := by
    rw [Bool.eq_iff_iff, beq_iff_eq, beq_iff_eq, Nat.add_right_cancel_iff]
  refine ⟨⟨h.capacity, h.lifetime, ?_, h.nextId⟩, ?_⟩
  · rw [active_dismiss, active_dismiss, h.active, List.filter_map]
    congr 1
    refine List.filter_congr ?_
    intro e _
    exact congrArg not (hsame e.id)
  · simp only [Tray.dismiss, h.active, List.any_map, Function.comp_def, Entry.shift, hsame]

/-- The same notices expire. -/
theorem expire (h : Shifted q t u) (now : Nat) :
    Shifted q (t.expire now).1 (u.expire now).1 ∧
      (t.expire now).2 = (u.expire now).2.map (· + q) := by
  refine ⟨⟨h.capacity, h.lifetime, ?_, h.nextId⟩, ?_⟩
  · rw [active_expire, active_expire, h.active, List.filter_map]
    rfl
  · simp only [Tray.expire, h.active, List.filter_map, List.map_map]
    rfl

/-- The earliest deadline is the same. -/
theorem nextDeadline? (h : Shifted q t u) : t.nextDeadline? = u.nextDeadline? := by
  rw [Tray.nextDeadline?, Tray.nextDeadline?, h.active, List.map_map]
  rfl

end Shifted

/-- Trays of one capacity and one lifetime are shifted when they are cleared. -/
theorem shifted_clear {q : Nat} {t u : Tray} (hcapacity : t.capacity = u.capacity)
    (hlifetime : t.lifetime = u.lifetime) (hnext : t.nextId = u.nextId + q) :
    Shifted q t.clear u.clear :=
  ⟨hcapacity, hlifetime, rfl, hnext⟩

end Tray

/-! ### Sessions -/

namespace Session

/-- The operation that refers to numbers greater by `q`. -/
def Operation.shift (q : Nat) : Operation → Operation
  | submit line now => .submit line now
  | reset now => .reset now
  | dismiss id => .dismiss (id + q)
  | expire now => .expire now

/-- The answer that tells numbers greater by `q`. -/
def Answer.shift (q : Nat) : Answer → Answer
  | outcome o => .outcome o
  | resetNotice id => .resetNotice (id + q)
  | dismissed removed => .dismissed removed
  | expired ids => .expired (ids.map (· + q))

/-- Two sessions that are the same but for the numbers of lines, greater by `p` in the first, for
those of notices, greater by `q`, and for what they have counted. -/
structure Shifted (p q : Nat) (a b : Session) : Prop where
  settings : a.settings = b.settings
  world : a.world = b.world
  journal : Journal.Shifted p a.journal b.journal
  tray : Tray.Shifted q a.tray b.tray

/-- **Resets leave shifted sessions**, whatever came before them: all that matters is that the
settings and the capacities are the same, that the grid is, and that numbers have only grown. -/
theorem shifted_reset {p q : Nat} {a b : Session} (hsettings : a.settings = b.settings)
    (hside : a.world.side = b.world.side) (hlog : a.journal.capacity = b.journal.capacity)
    (hline : a.journal.nextId = b.journal.nextId + p) (htray : a.tray.capacity = b.tray.capacity)
    (hlifetime : a.tray.lifetime = b.tray.lifetime) (hnext : a.tray.nextId = b.tray.nextId + q)
    (now : Nat) : Shifted p q (a.reset now).1 (b.reset now).1 := by
  have hnotice : a.resetNotice = b.resetNotice := by rw [resetNotice, resetNotice, hsettings]
  refine ⟨hsettings, ?_, Journal.shifted_clear hlog hline, ?_⟩
  · rw [world_reset, world_reset, World.cleared, World.cleared, hside]
  · simp only [reset, notify, hnotice]
    exact ((Tray.shifted_clear htray hlifetime hnext).push b.resetNotice now).1

namespace Shifted

variable {p q : Nat} {a b : Session}

/-- Shifted sessions are still shifted when both are reset. -/
theorem reset (h : Shifted p q a b) (now : Nat) : Shifted p q (a.reset now).1 (b.reset now).1 :=
  shifted_reset h.settings (congrArg World.side h.world) h.journal.capacity h.journal.nextId
    h.tray.capacity h.tray.lifetime h.tray.nextId now

theorem commandOf (h : Shifted p q a b) (line : String) : a.commandOf line = b.commandOf line := by
  rw [Session.commandOf, Session.commandOf, h.settings]

theorem submit_snd (h : Shifted p q a b) (line : String) (now : Nat) :
    (a.submit line now).2 = (b.submit line now).2 := by
  rw [Session.submit_snd, Session.submit_snd, h.commandOf, h.world]

theorem withWorld (h : Shifted p q a b) (w : World) :
    Shifted p q { a with world := w } { b with world := w } :=
  ⟨h.settings, rfl, h.journal, h.tray⟩

theorem absorb (h : Shifted p q a b) (o : Outcome) (now : Nat) :
    Shifted p q (a.absorb o now) (b.absorb o now) := by
  have hjournal := (h.journal.append o.logLines).1
  cases hn : o.notice with
  | none =>
      simp only [Session.absorb, hn]
      exact ⟨h.settings, h.world, hjournal, h.tray⟩
  | some notice =>
      simp only [Session.absorb, hn]
      exact ⟨h.settings, h.world, hjournal, (h.tray.push notice now).1⟩

/-- An outcome that is absorbed adds the same to all counters. -/
theorem outcomeGain_eq (h : Shifted p q a b) (o : Outcome) (now : Nat) :
    a.outcomeGain o now = b.outcomeGain o now := by
  have hcrowded : a.crowdedOut o now = b.crowdedOut o now := by
    rw [crowdedOut, crowdedOut]
    cases o.notice with
    | none => rfl
    | some notice => exact (h.tray.push notice now).2
  rw [outcomeGain, outcomeGain, hcrowded, (h.journal.append o.logLines).2]

theorem submit (h : Shifted p q a b) (line : String) (now : Nat) :
    Shifted p q (a.submit line now).1 (b.submit line now).1 := by
  have hout := h.submit_snd line now
  cases ho : (b.submit line now).2 with
  | none =>
      rw [ho] at hout
      rw [submit_of_none hout, submit_of_none ho]
      exact h
  | some o =>
      rw [ho] at hout
      rw [submit_of_some hout, submit_of_some ho, h.commandOf, h.world]
      exact (h.withWorld _).absorb o now

theorem dismiss (h : Shifted p q a b) (id : Nat) :
    Shifted p q (a.dismiss (id + q)).1 (b.dismiss id).1 ∧
      (a.dismiss (id + q)).2 = (b.dismiss id).2 := by
  obtain ⟨htray, hanswer⟩ := h.tray.dismiss id
  exact ⟨⟨h.settings, h.world, h.journal, htray⟩, hanswer⟩

theorem expire (h : Shifted p q a b) (now : Nat) :
    Shifted p q (a.expire now).1 (b.expire now).1 ∧
      (a.expire now).2 = (b.expire now).2.map (· + q) := by
  obtain ⟨htray, hanswer⟩ := h.tray.expire now
  exact ⟨⟨h.settings, h.world, h.journal, htray⟩, hanswer⟩

/-- **Shifted sessions go on alike**: they give the same answer up to the shift, they add the same
to all counters, and they stay shifted. -/
theorem perform (h : Shifted p q a b) (op : Operation) :
    Shifted p q (a.perform (op.shift q)).1 (b.perform op).1 ∧
      (a.perform (op.shift q)).2 = (b.perform op).2.shift q ∧
      a.gain (op.shift q) = b.gain op := by
  cases op with
  | submit line now =>
      rw [Operation.shift, perform_submit, perform_submit, h.submit_snd]
      refine ⟨h.submit line now, rfl, ?_⟩
      rw [gain, gain, h.submit_snd]
      cases (b.submit line now).2 with
      | none => rfl
      | some o => exact h.outcomeGain_eq o now
  | reset now =>
      rw [Operation.shift, perform_reset, perform_reset, reset_snd, reset_snd, h.tray.nextId]
      exact ⟨h.reset now, rfl, rfl⟩
  | dismiss id =>
      obtain ⟨hnext, hanswer⟩ := h.dismiss id
      rw [Operation.shift, perform_dismiss, perform_dismiss, gain, gain, hanswer]
      exact ⟨hnext, rfl, rfl⟩
  | expire now =>
      obtain ⟨hnext, hanswer⟩ := h.expire now
      rw [Operation.shift, perform_expire, perform_expire, gain, gain, hanswer, List.length_map]
      exact ⟨hnext, rfl, rfl⟩

/-- So they do in every run. -/
theorem run (h : Shifted p q a b) (ops : List Operation) :
    Shifted p q (a.run (ops.map (Operation.shift q))) (b.run ops) ∧
      a.answers (ops.map (Operation.shift q)) = (b.answers ops).map (Answer.shift q) ∧
      a.gains (ops.map (Operation.shift q)) = b.gains ops := by
  induction ops generalizing a b with
  | nil => exact ⟨h, rfl, rfl⟩
  | cons op ops ih =>
      obtain ⟨hnext, hanswer, hgain⟩ := h.perform op
      obtain ⟨hrun, hanswers, hgains⟩ := ih hnext
      refine ⟨hrun, ?_, ?_⟩
      · rw [List.map_cons, answers_cons, answers_cons, List.map_cons, hanswer, hanswers]
      · rw [List.map_cons, gains, gains, hgain, hgains]

end Shifted

/-! ### What operations leave alone -/

theorem lifetime_perform (s : Session) (op : Operation) :
    (s.perform op).1.tray.lifetime = s.tray.lifetime := by
  cases op with
  | submit line now =>
      rw [perform_submit]
      cases h : (s.submit line now).2 with
      | none => rw [submit_of_none h]
      | some o =>
          rw [submit_of_some h]
          cases hn : o.notice with
          | none => simp only [absorb, hn]
          | some notice => simp only [absorb, hn, notify, Tray.push]
  | reset now => rfl
  | dismiss id => rfl
  | expire now => rfl

/-- The journal keeps its capacity, and the numbers of its lines only grow. -/
theorem journal_perform (s : Session) (op : Operation) :
    (s.perform op).1.journal.capacity = s.journal.capacity ∧
      s.journal.nextId ≤ (s.perform op).1.journal.nextId := by
  have happend (j : Journal) (lines : List LogLine) :
      (j.append lines).1.capacity = j.capacity ∧ j.nextId ≤ (j.append lines).1.nextId := by
    induction lines generalizing j with
    | nil => exact ⟨rfl, Nat.le_refl _⟩
    | cons line lines ih =>
        obtain ⟨hcapacity, hnext⟩ := ih (j.push line).1
        exact ⟨hcapacity, Nat.le_trans (Nat.le_succ _) hnext⟩
  cases op with
  | submit line now =>
      rw [perform_submit]
      cases h : (s.submit line now).2 with
      | none =>
          rw [submit_of_none h]
          exact ⟨rfl, Nat.le_refl _⟩
      | some o =>
          rw [submit_of_some h, journal_absorb]
          exact happend s.journal o.logLines
  | reset now => exact ⟨rfl, Nat.le_refl _⟩
  | dismiss id => exact ⟨rfl, Nat.le_refl _⟩
  | expire now => exact ⟨rfl, Nat.le_refl _⟩

/-- So far as a reset is concerned, a run changes nothing but the next numbers. -/
theorem static_run (s : Session) (ops : List Operation) :
    (s.run ops).tray.capacity = s.tray.capacity ∧ (s.run ops).tray.lifetime = s.tray.lifetime ∧
      (s.run ops).journal.capacity = s.journal.capacity ∧
      s.journal.nextId ≤ (s.run ops).journal.nextId := by
  induction ops generalizing s with
  | nil => exact ⟨rfl, rfl, rfl, Nat.le_refl _⟩
  | cons op ops ih =>
      obtain ⟨htray, hlifetime, hlog, hnext⟩ := ih (s.perform op).1
      obtain ⟨hlog', hnext'⟩ := journal_perform s op
      rw [capacity_perform] at htray
      rw [lifetime_perform] at hlifetime
      rw [hlog'] at hlog
      exact ⟨htray, hlifetime, hlog, Nat.le_trans hnext' hnext⟩

/-- A number that is not on show can be dismissed without effect. -/
theorem dismiss_of_notMem {s : Session} {id : Nat} (h : id ∉ s.shown) :
    s.dismiss id = (s, false) := by
  have hother : ∀ e ∈ s.tray.active, e.id ≠ id := by
    intro e he hid
    exact h (List.mem_map.2 ⟨e, he, hid⟩)
  have hany : (s.tray.active.any fun e => e.id == id) = false := by
    rw [List.any_eq_false]
    intro e he hid
    exact hother e he (beq_iff_eq.1 hid)
  have hfilter : (s.tray.onShow.filter fun e => e.id != id) = s.tray.onShow := by
    refine Queue.filter_eq_self ?_
    intro e he
    exact bne_iff_ne.2 (hother e he)
  simp [dismiss, Tray.dismiss, hany, hfilter]

/-! ### Before and after a reset -/

section Reset

variable {A : Settings} {s : Session}

/-- A session that is reset after any history is one that is reset at once, but for the numbers. -/
theorem exists_shifted_reset (hs : start A = .ok s) (history : List Operation) (t : Nat) :
    ∃ p, Shifted p (s.run history).tally.emitted (s.run (history ++ [.reset t]))
      (s.run [.reset t]) := by
  obtain ⟨htray, hlifetime, hlog, hline⟩ := static_run s history
  obtain ⟨p, hp⟩ := Nat.exists_eq_add_of_le hline
  have hside : (s.run history).world.side = s.world.side := by
    rw [(reachable_run (reachable_start hs) history).sound.1,
      (reachable_start hs).sound.1]
  have hnext : (s.run history).tray.nextId = s.tray.nextId + (s.run history).tally.emitted := by
    rw [nextId_eq_emitted hs]
    obtain ⟨-, rfl⟩ := start_eq_ok_iff.1 hs
    exact Nat.add_comm _ _
  refine ⟨p, ?_⟩
  rw [run_append]
  exact shifted_reset (settings_run s history) hside hlog hp htray hlifetime hnext t

/-- A reset drops every notice that was put in the tray before it, for good. -/
theorem notMem_shown_of_mem_issued (hs : start A = .ok s) {history : List Operation} {t id : Nat}
    (hid : id ∈ s.issued history) (ops : List Operation) :
    id ∉ (s.run (history ++ .reset t :: ops)).shown := by
  rw [issued_eq_range' hs, List.mem_range'_1] at hid
  have hreset : (s.run (history ++ [.reset t])).shown = [(s.run history).tally.emitted + 1] := by
    rw [run_append, run_cons, run_nil, shown_perform, ← nextId_eq_emitted hs]
    rfl
  have hissued : id ∈ s.issued (history ++ [.reset t]) := by
    have hemitted : (s.run (history ++ [.reset t])).tally.emitted =
        (s.run history).tally.emitted + 1 := by
      rw [run_append, run_cons, run_nil, perform_reset, emitted_reset]
    rw [issued_eq_range' hs, List.mem_range'_1, hemitted]
    omega
  -- right after the reset only its own notice is on show, so the number has gone
  rcases List.mem_append.1 ((perm_issued hs _).mem_iff.2 hissued) with hshown | hgone
  · rw [hreset, List.mem_singleton] at hshown
    omega
  · obtain ⟨x, hx, rfl⟩ := List.mem_map.1 hgone
    have hstays : x ∈ s.gone ((history ++ [.reset t]) ++ ops) := by
      rw [gone_append]
      exact List.mem_append_left _ hx
    rw [List.append_assoc] at hstays
    exact notMem_shown_of_mem_gone hs hstays

end Reset

/-- **A reset forgets everything but the counters.**  A session `a` that is reset at time `t` after
any history goes on as the session `b` that was fresh when it was reset then: there are constants
`p` and `q`, the differences of their next numbers, such that after any further operations, which in
the first session refer to notices by numbers greater by `q`,

* the answers are the same, the worlds and their digests are, and so are the lines of the journal,
  the notices on show, their deadlines and the earliest of them, but for numbers that are greater by
  `p` or `q`;
* every counter has grown by the same amount since the reset;
* a number that was issued before the reset can be dismissed without effect. -/
theorem reset_forgets_all_but_counters {A : Settings} {s a b : Session} {history : List Operation}
    {t : Nat} (hs : start A = .ok s) (ha : s.run (history ++ [.reset t]) = a)
    (hb : s.run [.reset t] = b) :
    ∃ p q, a.journal.nextId = b.journal.nextId + p ∧ a.tray.nextId = b.tray.nextId + q ∧
      ∀ ops a' b', a.run (ops.map (Operation.shift q)) = a' → b.run ops = b' →
        a.answers (ops.map (Operation.shift q)) = (b.answers ops).map (Answer.shift q) ∧
        a'.world = b'.world ∧ a'.world.digest = b'.world.digest ∧
        a'.journal.entries = b'.journal.entries.map (Journal.Entry.shift p) ∧
        a'.tray.active = b'.tray.active.map (Tray.Entry.shift q) ∧
        a'.tray.nextDeadline? = b'.tray.nextDeadline? ∧
        (∃ gained, a'.tally = a.tally + gained ∧ b'.tally = b.tally + gained) ∧
        ∀ id ∈ s.issued history, a'.dismiss id = (a', false) := by
  obtain ⟨p, hshifted⟩ := exists_shifted_reset hs history t
  rw [ha, hb] at hshifted
  refine ⟨p, _, hshifted.journal.nextId, hshifted.tray.nextId, ?_⟩
  rintro ops a' b' rfl rfl
  obtain ⟨hrun, hanswers, hgains⟩ := hshifted.run ops
  refine ⟨hanswers, hrun.world, congrArg World.digest hrun.world, hrun.journal.entries,
    hrun.tray.active, hrun.tray.nextDeadline?, ⟨b.gains ops, ?_, tally_run b ops⟩, ?_⟩
  · rw [tally_run, hgains]
  · intro id hid
    apply dismiss_of_notMem
    rw [← ha, ← run_append, List.append_assoc]
    exact notMem_shown_of_mem_issued hs hid _

/-- A line, the notice of the reset dismissed by its number in a session that was fresh, and what is
still on show gone. -/
def afterwards : List Operation := [.submit "MOVE" 2, .dismiss 1, .expire 9000]

/-- The session of `TorusRobot.Session.eventful` has issued five numbers before it is reset. -/
theorem reset_forgets_all_but_counters_eventful :
    ∃ s a b, start narrow = .ok s ∧ s.run (eventful ++ [.reset 4]) = a ∧ s.run [.reset 4] = b ∧
      a.answers [.submit "MOVE" 2, .dismiss 6, .expire 9000] =
        (b.answers afterwards).map (Answer.shift 5) ∧
      (a.run [.submit "MOVE" 2, .dismiss 6, .expire 9000]).world = (b.run afterwards).world ∧
      (a.run [.submit "MOVE" 2, .dismiss 6, .expire 9000]).dismiss 3 =
        (a.run [.submit "MOVE" 2, .dismiss 6, .expire 9000], false) := by
  have hs : start narrow = .ok (fresh narrow) := start_eq_ok_iff.2 ⟨rfl, rfl⟩
  have ha : (fresh narrow).run (eventful ++ [.reset 4]) =
      (fresh narrow).run (eventful ++ [.reset 4]) := rfl
  have hb : (fresh narrow).run [.reset 4] = (fresh narrow).run [.reset 4] := rfl
  obtain ⟨p, q, -, hq, h⟩ := reset_forgets_all_but_counters hs ha hb
  have hnext : ((fresh narrow).run (eventful ++ [.reset 4])).tray.nextId = 7 := by decide +kernel
  have hnext' : ((fresh narrow).run [.reset 4]).tray.nextId = 2 := by decide
  rw [hnext, hnext'] at hq
  obtain rfl : q = 5 := by omega
  have hthree : 3 ∈ (fresh narrow).issued eventful := by decide +kernel
  obtain ⟨hanswers, hworld, -, -, -, -, -, hold⟩ := h afterwards _ _ rfl rfl
  exact ⟨_, _, _, hs, ha, hb, hanswers, hworld, hold 3 hthree⟩

end Session

end TorusRobot
