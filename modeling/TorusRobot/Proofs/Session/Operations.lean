/-
**What the operations of a session do.**

Each operation is described by what it does to the settings, to the world, to the journal, to the
number of the next notice and to the counters.  Lines and resets do all of this; what is done to
the notices on show touches only the tray and the counters of notices that went.

Main results:

* `TorusRobot.Session.submit_snd`, `TorusRobot.Session.world_submit` — a line is applied to the
  world as the command that it stands for;
* `TorusRobot.Session.ofStatus_submit`, `TorusRobot.Session.commands_submit` — and counted once;
* `TorusRobot.Session.journal_absorb`, `TorusRobot.Session.nextId_absorb` — an outcome adds its
  lines to the journal, and its notice takes the next number;
* `TorusRobot.Session.world_reset` — a reset clears the world;
* `TorusRobot.Session.settings_run` — the settings never change.
-/
import TorusRobot.Session.Run

set_option relaxedAutoImplicit false
set_option autoImplicit false

namespace TorusRobot.Session

/-! ### Notices and outcomes -/

@[simp] theorem settings_notify (s : Session) (notice : Notice) (now : Nat) :
    (s.notify notice now).1.settings = s.settings := rfl

@[simp] theorem world_notify (s : Session) (notice : Notice) (now : Nat) :
    (s.notify notice now).1.world = s.world := rfl

@[simp] theorem commands_notify (s : Session) (notice : Notice) (now : Nat) :
    (s.notify notice now).1.tally.commands = s.tally.commands := rfl

@[simp] theorem ofStatus_notify (s : Session) (notice : Notice) (now : Nat) (u : Status) :
    (s.notify notice now).1.tally.ofStatus u = s.tally.ofStatus u := by
  cases u <;> rfl

@[simp] theorem resets_notify (s : Session) (notice : Notice) (now : Nat) :
    (s.notify notice now).1.tally.resets = s.tally.resets := rfl

@[simp] theorem journal_notify (s : Session) (notice : Notice) (now : Nat) :
    (s.notify notice now).1.journal = s.journal := rfl

@[simp] theorem linesEvicted_notify (s : Session) (notice : Notice) (now : Nat) :
    (s.notify notice now).1.tally.linesEvicted = s.tally.linesEvicted := rfl

@[simp] theorem nextId_notify (s : Session) (notice : Notice) (now : Nat) :
    (s.notify notice now).1.tray.nextId = s.tray.nextId + 1 := rfl

@[simp] theorem emitted_notify (s : Session) (notice : Notice) (now : Nat) :
    (s.notify notice now).1.tally.emitted = s.tally.emitted + 1 := rfl

@[simp] theorem linesEvicted_countStatus (t : Tally) (u : Status) :
    (t.countStatus u).linesEvicted = t.linesEvicted := by
  cases u <;> rfl

@[simp] theorem emitted_countStatus (t : Tally) (u : Status) :
    (t.countStatus u).emitted = t.emitted := by
  cases u <;> rfl

@[simp] theorem resets_countStatus (t : Tally) (u : Status) :
    (t.countStatus u).resets = t.resets := by
  cases u <;> rfl

@[simp] theorem settings_absorb (s : Session) (o : Outcome) (now : Nat) :
    (s.absorb o now).settings = s.settings := by
  cases h : o.notice with
  | none => simp [absorb, h]
  | some notice => simp [absorb, h]

@[simp] theorem world_absorb (s : Session) (o : Outcome) (now : Nat) :
    (s.absorb o now).world = s.world := by
  cases h : o.notice with
  | none => simp [absorb, h]
  | some notice => simp [absorb, h]

@[simp] theorem commands_absorb (s : Session) (o : Outcome) (now : Nat) :
    (s.absorb o now).tally.commands = s.tally.commands + 1 := by
  cases h : o.notice with
  | none => simp [absorb, h]
  | some notice => simp [absorb, h]

@[simp] theorem resets_absorb (s : Session) (o : Outcome) (now : Nat) :
    (s.absorb o now).tally.resets = s.tally.resets := by
  cases h : o.notice with
  | none => simp [absorb, h]
  | some notice => simp [absorb, h]

/-- The lines of the outcome are appended to the journal. -/
@[simp] theorem journal_absorb (s : Session) (o : Outcome) (now : Nat) :
    (s.absorb o now).journal = (s.journal.append o.logLines).1 := by
  cases h : o.notice with
  | none => simp [absorb, h]
  | some notice => simp [absorb, h]

/-- The lines that had to make room in the journal are counted. -/
theorem linesEvicted_absorb (s : Session) (o : Outcome) (now : Nat) :
    (s.absorb o now).tally.linesEvicted =
      s.tally.linesEvicted + (s.journal.append o.logLines).2 := by
  cases h : o.notice with
  | none => simp [absorb, h]
  | some notice => simp [absorb, h]

/-- The notice of the outcome, if it has one, takes the next number. -/
theorem nextId_absorb (s : Session) (o : Outcome) (now : Nat) :
    (s.absorb o now).tray.nextId = s.tray.nextId + if o.notice.isSome then 1 else 0 := by
  cases h : o.notice with
  | none => simp [absorb, h]
  | some notice => simp [absorb, h]

/-- The notice of the outcome, if it has one, is counted. -/
theorem emitted_absorb (s : Session) (o : Outcome) (now : Nat) :
    (s.absorb o now).tally.emitted = s.tally.emitted + if o.notice.isSome then 1 else 0 := by
  cases h : o.notice with
  | none => simp [absorb, h]
  | some notice => simp [absorb, h]

theorem ofStatus_absorb (s : Session) (o : Outcome) (now : Nat) (u : Status) :
    (s.absorb o now).tally.ofStatus u = s.tally.ofStatus u + if o.status = u then 1 else 0 := by
  -- the lines that the journal drops are counted apart
  have hgone (n : Nat) :
      Tally.ofStatus { s.tally with linesEvicted := n } u = s.tally.ofStatus u := by
    cases u <;> rfl
  cases h : o.notice with
  | none => simp [absorb, h, Tally.ofStatus_countStatus, hgone]
  | some notice => simp [absorb, h, Tally.ofStatus_countStatus, hgone]

/-! ### Lines -/

/-- A line has the outcome of the command that it stands for. -/
theorem submit_snd (s : Session) (line : String) (now : Nat) :
    (s.submit line now).2 = (s.world.apply (s.commandOf line)).1 := by
  unfold submit
  rcases s.world.apply (s.commandOf line) with ⟨_ | o, w⟩
  · rfl
  · rfl

/-- A line with an outcome is carried out on the world and absorbed. -/
theorem submit_of_some {s : Session} {line : String} {now : Nat} {o : Outcome}
    (h : (s.submit line now).2 = some o) :
    (s.submit line now).1 =
      { s with world := (s.world.apply (s.commandOf line)).2 }.absorb o now := by
  rw [submit_snd] at h
  unfold submit
  rcases hw : s.world.apply (s.commandOf line) with ⟨_ | o', w⟩
  · rw [hw] at h
    cases h
  · rw [hw] at h
    obtain rfl := Option.some.inj h
    rfl

/-- The world after a line is that after its command, also if there is no outcome. -/
theorem world_submit (s : Session) (line : String) (now : Nat) :
    (s.submit line now).1.world = (s.world.apply (s.commandOf line)).2 := by
  cases h : (s.submit line now).2 with
  | none =>
      have hempty := submit_eq_none_iff.1 h
      rw [submit_of_none h, World.apply_of_isEmpty hempty]
  | some o => rw [submit_of_some h, world_absorb]

@[simp] theorem settings_submit (s : Session) (line : String) (now : Nat) :
    (s.submit line now).1.settings = s.settings := by
  cases h : (s.submit line now).2 with
  | none => rw [submit_of_none h]
  | some o => rw [submit_of_some h, settings_absorb]

@[simp] theorem resets_submit (s : Session) (line : String) (now : Nat) :
    (s.submit line now).1.tally.resets = s.tally.resets := by
  cases h : (s.submit line now).2 with
  | none => rw [submit_of_none h]
  | some o => rw [submit_of_some h, resets_absorb]

/-- A line counts as a command if it has an outcome. -/
theorem commands_submit (s : Session) (line : String) (now : Nat) :
    (s.submit line now).1.tally.commands =
      s.tally.commands + if (s.submit line now).2.isSome then 1 else 0 := by
  cases h : (s.submit line now).2 with
  | none => simp [submit_of_none h]
  | some o => simp [submit_of_some h]

/-- A line counts for the status of its outcome. -/
theorem ofStatus_submit (s : Session) (line : String) (now : Nat) (u : Status) :
    (s.submit line now).1.tally.ofStatus u =
      s.tally.ofStatus u + if (s.submit line now).2.map Outcome.status = some u then 1 else 0 := by
  cases h : (s.submit line now).2 with
  | none => simp [submit_of_none h]
  | some o =>
      rw [submit_of_some h, ofStatus_absorb]
      simp

/-! ### Resets and notices -/

@[simp] theorem settings_reset (s : Session) (now : Nat) :
    (s.reset now).1.settings = s.settings := rfl

theorem world_reset (s : Session) (now : Nat) : (s.reset now).1.world = s.world.cleared := rfl

theorem journal_reset (s : Session) (now : Nat) : (s.reset now).1.journal = s.journal.clear := rfl

theorem linesEvicted_reset (s : Session) (now : Nat) :
    (s.reset now).1.tally.linesEvicted = s.tally.linesEvicted := rfl

theorem nextId_reset (s : Session) (now : Nat) :
    (s.reset now).1.tray.nextId = s.tray.nextId + 1 := rfl

theorem emitted_reset (s : Session) (now : Nat) :
    (s.reset now).1.tally.emitted = s.tally.emitted + 1 := rfl

/-- The notice of a reset takes the next number. -/
theorem reset_snd (s : Session) (now : Nat) : (s.reset now).2 = s.tray.nextId := rfl

theorem commands_reset (s : Session) (now : Nat) :
    (s.reset now).1.tally.commands = s.tally.commands := rfl

theorem ofStatus_reset (s : Session) (now : Nat) (u : Status) :
    (s.reset now).1.tally.ofStatus u = s.tally.ofStatus u := by
  cases u <;> rfl

theorem resets_reset (s : Session) (now : Nat) :
    (s.reset now).1.tally.resets = s.tally.resets + 1 := rfl

@[simp] theorem settings_dismiss (s : Session) (id : Nat) :
    (s.dismiss id).1.settings = s.settings := rfl

@[simp] theorem world_dismiss (s : Session) (id : Nat) : (s.dismiss id).1.world = s.world := rfl

@[simp] theorem settings_expire (s : Session) (now : Nat) :
    (s.expire now).1.settings = s.settings := rfl

@[simp] theorem world_expire (s : Session) (now : Nat) : (s.expire now).1.world = s.world := rfl

/-! ### Runs -/

@[simp] theorem perform_submit (s : Session) (line : String) (now : Nat) :
    s.perform (.submit line now) = ((s.submit line now).1, .outcome (s.submit line now).2) := by
  simp only [perform]

@[simp] theorem perform_reset (s : Session) (now : Nat) :
    s.perform (.reset now) = ((s.reset now).1, .resetNotice (s.reset now).2) := by
  simp only [perform]

@[simp] theorem perform_dismiss (s : Session) (id : Nat) :
    s.perform (.dismiss id) = ((s.dismiss id).1, .dismissed (s.dismiss id).2) := by
  simp only [perform]

@[simp] theorem perform_expire (s : Session) (now : Nat) :
    s.perform (.expire now) = ((s.expire now).1, .expired (s.expire now).2) := by
  simp only [perform]

@[simp] theorem settings_perform (s : Session) (op : Operation) :
    (s.perform op).1.settings = s.settings := by
  cases op with
  | submit line now => rw [perform_submit, settings_submit]
  | reset now => rw [perform_reset, settings_reset]
  | dismiss id => rw [perform_dismiss, settings_dismiss]
  | expire now => rw [perform_expire, settings_expire]

/-- **The settings never change.** -/
theorem settings_run (s : Session) (ops : List Operation) : (s.run ops).settings = s.settings := by
  induction ops generalizing s with
  | nil => rfl
  | cons op ops ih => rw [run_cons, ih, settings_perform]

end TorusRobot.Session
