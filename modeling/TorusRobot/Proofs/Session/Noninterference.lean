/-
**Display and time do not interfere with the simulation.**

Some of the things done in a session are deeds: lines and resets.  The others, dismissing notices
and letting them expire, concern only what is on show; and the time at which anything is done
decides only when notices go.  So two sessions in which the same deeds are done answer them alike
and agree after each of them in everything but their trays, whatever else is done in between, at
whatever times, and however many notices are shown for however long.  In particular the world is
that of the lines since the last reset, carried out one after another from an empty one.

Main definitions:

* `TorusRobot.Session.Deed`, `TorusRobot.Session.Operation.deed?` — lines and resets, without times;
* `TorusRobot.Session.Substance`, `TorusRobot.Session.substance` — what must not depend on display
  and time;
* `TorusRobot.Session.chronicle` — the answer to each deed of a run, and the substance after it;
* `TorusRobot.Session.linesSinceReset` — the lines behind the last reset of a run;
* `TorusRobot.Session.InStep` — equality up to the notices on show and how they are shown.

Main results:

* `TorusRobot.Session.InStep.submit`, `TorusRobot.Session.InStep.reset` — deeds keep sessions in
  step;
* `TorusRobot.Session.InStep.chronicle_eq` — a run has the chronicle of its bare deeds;
* `TorusRobot.Session.world_run` — the world is that of the lines since the last reset;
* `TorusRobot.Session.display_never_interferes` — **display and time do not interfere**.
-/
import Mathlib.Data.List.DropRight
import TorusRobot.Proofs.Session.Alike
import TorusRobot.Proofs.Session.Worlds
import TorusRobot.Recording.Digest

set_option relaxedAutoImplicit false
set_option autoImplicit false

namespace TorusRobot.Session

/-! ### Deeds -/

/-- Something done to the simulation, whenever that is. -/
inductive Deed where
  | submit (line : String)
  | reset
deriving DecidableEq, Repr

/-- The deed at time `now`. -/
def Deed.at (now : Nat) : Deed → Operation
  | submit line => .submit line now
  | reset => .reset now

/-- The deed that an operation is; there is none in what concerns only the notices on show. -/
def Operation.deed? : Operation → Option Deed
  | .submit line _ => some (.submit line)
  | .reset _ => some .reset
  | .dismiss _ => none
  | .expire _ => none

/-- The deeds of a run. -/
def deeds (ops : List Operation) : List Deed := ops.filterMap Operation.deed?

theorem deeds_cons_of_some {op : Operation} {d : Deed} (h : op.deed? = some d)
    (ops : List Operation) : deeds (op :: ops) = d :: deeds ops :=
  List.filterMap_cons_some h

theorem deeds_cons_of_none {op : Operation} (h : op.deed? = none) (ops : List Operation) :
    deeds (op :: ops) = deeds ops :=
  List.filterMap_cons_none h

@[simp] theorem deed?_at (d : Deed) (now : Nat) : (d.at now).deed? = some d := by
  cases d <;> rfl

/-! ### What is compared -/

/-- What must not depend on display and time. -/
structure Substance where
  world : World
  digest : UInt64
  /-- The lines of the journal with their numbers. -/
  entries : List Journal.Entry
  commands : Nat
  ok : Nat
  blocked : Nat
  invalid : Nat
  notPlaced : Nat
  /-- Notices put in the tray, on show or not. -/
  emitted : Nat
  linesEvicted : Nat
  resets : Nat
deriving DecidableEq, Repr

/-- The substance of a session. -/
def substance (s : Session) : Substance where
  world := s.world
  digest := s.world.digest
  entries := s.journal.entries
  commands := s.tally.commands
  ok := s.tally.ok
  blocked := s.tally.blocked
  invalid := s.tally.invalid
  notPlaced := s.tally.notPlaced
  emitted := s.tally.emitted
  linesEvicted := s.tally.linesEvicted
  resets := s.tally.resets

/-- What becomes of the deeds of a run, in order: the answer to each, and the substance right after
it. -/
def chronicle (s : Session) : List Operation → List (Answer × Substance)
  | [] => []
  | op :: ops =>
    let (next, answer) := s.perform op
    match op.deed? with
    | some _ => (answer, next.substance) :: next.chronicle ops
    | none => next.chronicle ops

theorem chronicle_cons_of_some {s : Session} {op : Operation} {d : Deed} (h : op.deed? = some d)
    (ops : List Operation) :
    s.chronicle (op :: ops) =
      ((s.perform op).2, (s.perform op).1.substance) :: (s.perform op).1.chronicle ops := by
  simp only [chronicle, h]

theorem chronicle_cons_of_none {s : Session} {op : Operation} (h : op.deed? = none)
    (ops : List Operation) : s.chronicle (op :: ops) = (s.perform op).1.chronicle ops := by
  simp only [chronicle, h]

/-! ### Sessions in step -/

/-- Two sessions differ at most in the notices on show and in how notices are shown. -/
structure InStep (a b : Session) : Prop extends Alike a b where
  journal : a.journal = b.journal
  /-- The next notice gets the same number, whichever notices are still on show. -/
  nextId : a.tray.nextId = b.tray.nextId
  emitted : a.tally.emitted = b.tally.emitted
  linesEvicted : a.tally.linesEvicted = b.tally.linesEvicted

/-- Settings that agree in the side, in the treatment of lines and in the capacity of the journal
give fresh sessions in step. -/
theorem inStep_start {A B : Settings} {a b : Session} (ha : start A = .ok a) (hb : start B = .ok b)
    (hside : A.side = B.side) (hcase : A.casePolicy = B.casePolicy)
    (hlog : A.logCapacity = B.logCapacity) : InStep a b := by
  have halike := alike_start ha hb hside hcase
  obtain ⟨_, rfl⟩ := start_eq_ok_iff.1 ha
  obtain ⟨_, rfl⟩ := start_eq_ok_iff.1 hb
  have hjournal : (fresh A).journal = (fresh B).journal := by
    simp only [fresh, hlog]
  exact ⟨halike, hjournal, rfl, rfl, rfl⟩

namespace InStep

variable {a b : Session}

theorem refl (a : Session) : InStep a a :=
  ⟨⟨rfl, rfl, rfl, fun _ => rfl, rfl⟩, rfl, rfl, rfl, rfl⟩

/-- Sessions in step have the same substance. -/
theorem substance_eq (h : InStep a b) : a.substance = b.substance := by
  have hok : a.tally.ok = b.tally.ok := h.ofStatus .ok
  have hblocked : a.tally.blocked = b.tally.blocked := h.ofStatus .blocked
  have hinvalid : a.tally.invalid = b.tally.invalid := h.ofStatus .invalid
  have hnotPlaced : a.tally.notPlaced = b.tally.notPlaced := h.ofStatus .notPlaced
  simp only [substance, h.world, h.journal, h.commands, hok, hblocked, hinvalid, hnotPlaced,
    h.emitted, h.linesEvicted, h.resets]

/-- The same line keeps sessions in step, at any two times. -/
theorem submit (h : InStep a b) (line : String) (t u : Nat) :
    InStep (a.submit line t).1 (b.submit line u).1 := by
  have hout := h.submit_snd line t u
  cases ho : (b.submit line u).2 with
  | none =>
      rw [ho] at hout
      rw [submit_of_none hout, submit_of_none ho]
      exact h
  | some o =>
      rw [ho] at hout
      refine ⟨h.toAlike.submit line t u, ?_, ?_, ?_, ?_⟩
      · rw [submit_of_some hout, submit_of_some ho, journal_absorb, journal_absorb]
        simp only [h.journal]
      · rw [submit_of_some hout, submit_of_some ho, nextId_absorb, nextId_absorb]
        simp only [h.nextId]
      · rw [submit_of_some hout, submit_of_some ho, emitted_absorb, emitted_absorb]
        simp only [h.emitted]
      · rw [submit_of_some hout, submit_of_some ho, linesEvicted_absorb, linesEvicted_absorb]
        simp only [h.linesEvicted, h.journal]

/-- A reset keeps sessions in step, at any two times. -/
theorem reset (h : InStep a b) (t u : Nat) : InStep (a.reset t).1 (b.reset u).1 := by
  refine ⟨h.toAlike.reset t u, ?_, ?_, ?_, ?_⟩
  · rw [journal_reset, journal_reset, h.journal]
  · rw [nextId_reset, nextId_reset, h.nextId]
  · rw [emitted_reset, emitted_reset, h.emitted]
  · rw [linesEvicted_reset, linesEvicted_reset, h.linesEvicted]

/-- What is no deed in one session does not concern the other. -/
theorem of_deed?_none (h : InStep a b) {op : Operation} (hop : op.deed? = none) :
    InStep (a.perform op).1 b := by
  cases op with
  | submit line now => cases hop
  | reset now => cases hop
  | dismiss id =>
      rw [perform_dismiss]
      exact ⟨h.toAlike.dismiss_left id, h.journal, h.nextId, h.emitted, h.linesEvicted⟩
  | expire now =>
      rw [perform_expire]
      exact ⟨h.toAlike.expire_left now, h.journal, h.nextId, h.emitted, h.linesEvicted⟩

/-- A deed keeps sessions in step, at any two times, and both give the same answer. -/
theorem of_deed?_some (h : InStep a b) {op : Operation} {d : Deed} (hop : op.deed? = some d)
    (u : Nat) :
    (a.perform op).2 = (b.perform (d.at u)).2 ∧ InStep (a.perform op).1 (b.perform (d.at u)).1 := by
  cases op with
  | submit line t =>
      obtain rfl := Option.some.inj hop
      have hout := h.submit_snd line t u
      rw [Deed.at, perform_submit, perform_submit, hout]
      exact ⟨rfl, h.submit line t u⟩
  | reset t =>
      obtain rfl := Option.some.inj hop
      rw [Deed.at, perform_reset, perform_reset, reset_snd, reset_snd, h.nextId]
      exact ⟨rfl, h.reset t u⟩
  | dismiss id => cases hop
  | expire t => cases hop

/-- A run has the chronicle of its bare deeds, all of them done at time zero in a session in
step. -/
theorem chronicle_eq (h : InStep a b) (ops : List Operation) :
    a.chronicle ops = b.chronicle ((deeds ops).map (Deed.at 0)) ∧
      InStep (a.run ops) (b.run ((deeds ops).map (Deed.at 0))) := by
  induction ops generalizing a b with
  | nil => exact ⟨rfl, h⟩
  | cons op ops ih =>
      cases hop : op.deed? with
      | none =>
          -- only the first session goes on
          rw [chronicle_cons_of_none hop, deeds_cons_of_none hop, run_cons]
          exact ih (h.of_deed?_none hop)
      | some d =>
          obtain ⟨hanswer, hstep⟩ := h.of_deed?_some hop 0
          obtain ⟨hrest, hrun⟩ := ih hstep
          rw [chronicle_cons_of_some hop, deeds_cons_of_some hop, List.map_cons,
            chronicle_cons_of_some (deed?_at d 0), hanswer, hstep.substance_eq, hrest]
          exact ⟨rfl, hrun⟩

end InStep

/-! ### The world of a run -/

/-- The line of an operation, if it has one. -/
def Operation.line? : Operation → Option String
  | .submit line _ => some line
  | .reset _ | .dismiss _ | .expire _ => none

/-- The lines behind the last reset of a run, or all of them if there is none. -/
def linesSinceReset (ops : List Operation) : List String :=
  (ops.rtakeWhile fun op => op.deed? ≠ some .reset).filterMap Operation.line?

theorem linesSinceReset_concat_reset (ops : List Operation) (now : Nat) :
    linesSinceReset (ops ++ [.reset now]) = [] := by
  rw [linesSinceReset, List.rtakeWhile_concat_neg]
  · rfl
  · simp [Operation.deed?]

theorem linesSinceReset_concat {op : Operation} (h : op.deed? ≠ some .reset)
    (ops : List Operation) :
    linesSinceReset (ops ++ [op]) = linesSinceReset ops ++ op.line?.toList := by
  rw [linesSinceReset, List.rtakeWhile_concat_pos, List.filterMap_append]
  · cases hl : op.line? <;> simp [linesSinceReset, hl]
  · simpa using h

/-- What is no deed adds no line. -/
theorem linesSinceReset_concat_of_none {op : Operation} (h : op.deed? = none)
    (ops : List Operation) : linesSinceReset (ops ++ [op]) = linesSinceReset ops := by
  have hl : op.line? = none := by
    cases op with
    | submit line now => cases h
    | reset now => rfl
    | dismiss id => rfl
    | expire now => rfl
  have hr : op.deed? ≠ some .reset := by
    rw [h]
    nofun
  rw [linesSinceReset_concat hr, hl, Option.toList_none, List.append_nil]

/-- **The world is that of the lines since the last reset**, carried out one after another from an
empty one. -/
theorem world_run {A : Settings} {s : Session} (hs : start A = .ok s) (ops : List Operation) :
    (s.run ops).world =
      World.applyAll { side := A.side }
        ((linesSinceReset ops).map fun line => Command.read (A.casePolicy.normalize line)) := by
  obtain ⟨hcheck, rfl⟩ := start_eq_ok_iff.1 hs
  -- from the end: the last operation is a reset, a line, or does not concern the world
  induction ops using List.reverseRecOn with
  | nil => rfl
  | append_singleton ops op ih =>
      have hsettings := settings_run (fresh A) ops
      have hside := (reachable_run (reachable_start hs) ops).sound.1
      rw [run_append, run_cons, run_nil]
      cases op with
      | submit line now =>
          have hcommand : ((fresh A).run ops).commandOf line =
              Command.read (A.casePolicy.normalize line) := by
            rw [commandOf, hsettings]
            rfl
          have hop : Operation.deed? (.submit line now) ≠ some .reset := by simp [Operation.deed?]
          rw [perform_submit, world_submit, hcommand, ih, linesSinceReset_concat hop]
          simp [World.applyAll, Operation.line?]
      | reset now =>
          rw [perform_reset, world_reset, linesSinceReset_concat_reset, World.cleared, hside]
          rfl
      | dismiss id => rw [perform_dismiss, world_dismiss, ih, linesSinceReset_concat_of_none rfl]
      | expire now => rw [perform_expire, world_expire, ih, linesSinceReset_concat_of_none rfl]

/-! ### Noninterference -/

/-- **Display and time do not interfere with the simulation.**  Settings `A` and `B` agree in the
side, in the treatment of lines and in the capacity of the journal; how many notices are shown, and
for how long, may differ.  In a session under each of them the same lines are submitted and the same
resets made, in the same order, but at any times and with any dismissals and expiries in between.
Then both sessions answer every line with the same outcome and every reset with the same number,
and after each of these they agree in their worlds and digests, in their journals, and in what they
have counted apart from the notices that went.  So they do at the end, and the world of each is
that of the lines submitted since the last reset. -/
theorem display_never_interferes {A B : Settings} {a b : Session} {ops ops' : List Operation}
    (ha : start A = .ok a) (hb : start B = .ok b) (hside : A.side = B.side)
    (hcase : A.casePolicy = B.casePolicy) (hlog : A.logCapacity = B.logCapacity)
    (hdeeds : deeds ops = deeds ops') :
    a.chronicle ops = b.chronicle ops' ∧ (a.run ops).substance = (b.run ops').substance ∧
      ∃ w, World.ofSide A.side = .ok w ∧
        (a.run ops).world = w.applyAll
          ((linesSinceReset ops).map fun line => Command.read (A.casePolicy.normalize line)) := by
  -- both runs are compared with the bare deeds in the second session
  obtain ⟨hchronicle, hrun⟩ := (inStep_start ha hb hside hcase hlog).chronicle_eq ops
  obtain ⟨hchronicle', hrun'⟩ := (InStep.refl b).chronicle_eq ops'
  rw [hdeeds] at hchronicle hrun
  refine ⟨?_, ?_, ?_⟩
  · rw [hchronicle, hchronicle']
  · rw [hrun.substance_eq, hrun'.substance_eq]
  · have hgrid := (Settings.check_eq_ok_iff.1 (start_eq_ok_iff.1 ha).1).1
    refine ⟨{ side := A.side }, ?_, world_run ha ops⟩
    rw [World.ofSide, Grid.checkSide_eq_ok_iff.2 ⟨rfl, hgrid⟩]
    rfl

/-- Settings under which one notice is shown for an instant. -/
def glance : Settings := { trayCapacity := 1, noticeLifetime := 1, resetLifetime := 1 }

/-- A reset between two lines, at times that go back, with notices taken away in between. -/
def attended : List Operation :=
  [.submit "place_robot 1,1,north" 9, .dismiss 1, .reset 4, .expire 9000, .submit "MOVE" 0]

/-- The same deeds one right after another. -/
def hurried : List Operation :=
  [.submit "place_robot 1,1,north" 1, .reset 1, .submit "MOVE" 1]

/-- The hypotheses of `TorusRobot.Session.display_never_interferes` are met by a session whose
notices are taken away as it goes on and one that is over before any of them is due. -/
theorem display_never_interferes_hurried :
    ∃ a b, start {} = .ok a ∧ start glance = .ok b ∧ deeds attended = deeds hurried ∧
      a.chronicle attended = b.chronicle hurried ∧
      (a.run attended).substance = (b.run hurried).substance ∧
      ∃ w, World.ofSide 5 = .ok w ∧
        (a.run attended).world =
          w.applyAll [Command.read (CasePolicy.uppercase.normalize "MOVE")] := by
  have ha : start {} = .ok (fresh {}) := start_eq_ok_iff.2 ⟨rfl, rfl⟩
  have hb : start glance = .ok (fresh glance) := start_eq_ok_iff.2 ⟨rfl, rfl⟩
  have hdeeds : deeds attended = deeds hurried := rfl
  obtain ⟨hchronicle, hsubstance, w, hw, hworld⟩ :=
    display_never_interferes ha hb rfl rfl rfl hdeeds
  have hlines : linesSinceReset attended = ["MOVE"] := by decide
  rw [hlines, List.map_cons, List.map_nil] at hworld
  exact ⟨_, _, ha, hb, hdeeds, hchronicle, hsubstance, w, hw, hworld⟩

end TorusRobot.Session
