/-
**An echo stands for its line.**

The log does not show a line as it was typed but as it was read: in upper case if lines are treated
so, and without the blanks at its ends.  Nothing is lost by that.  What is shown is read as the same
command, and so it can be submitted in place of the line, with the same outcome and the same session
afterwards; and the lines that a log shows make a script that can be run in place of what was typed.

Main definitions:

* `TorusRobot.CasePolicy.echo` — a line as the log shows it;
* `TorusRobot.LogLine.echoed?`, `TorusRobot.Journal.script` — the line that a line of the log shows,
  and the lines that a journal shows;
* `TorusRobot.Session.script` — a run with every line as the log shows it and no blank ones.

Main results:

* `TorusRobot.CasePolicy.echo_echo` — what the log shows of a line that the log shows;
* `TorusRobot.Session.commandOf_echo` — an echo is read as its line is;
* `TorusRobot.Session.run_script`, `TorusRobot.Session.outcomes_script` — a script is run in place
  of what was typed;
* `TorusRobot.Session.journal_script` — a journal that lacks nothing shows the script;
* `TorusRobot.Session.echo_stands_for_line` — **one line, and every run of a session**.
-/
import TorusRobot.Proofs.Command.Reading
import TorusRobot.Proofs.Session.Noninterference
import TorusRobot.Proofs.Session.Window
import TorusRobot.Proofs.Text.Uppercase

set_option relaxedAutoImplicit false
set_option autoImplicit false

namespace TorusRobot

open Text

/-! ### Echoes -/

theorem Text.trimmed_trimmed (s : String) : trimmed (trimmed s) = trimmed s := by
  rw [trimmed, toList_trimmed, trim_trim, trimmed]

/-- A line as the log shows it. -/
def CasePolicy.echo (policy : CasePolicy) (line : String) : String :=
  trimmed (policy.normalize line)

theorem CasePolicy.toList_echo_uppercase (line : String) :
    (uppercase.echo line).toList = trim (Text.uppercase line.toList) := by
  rw [echo, toList_trimmed, normalize, String.toList_ofList]

/-- **The log shows a line that it shows as it is.** -/
theorem CasePolicy.echo_echo (policy : CasePolicy) (line : String) :
    policy.echo (policy.echo line) = policy.echo line := by
  cases policy with
  | exact => exact trimmed_trimmed line
  | uppercase =>
      -- there is neither anything to trim nor anything to put in upper case
      rw [← String.toList_inj, toList_echo_uppercase, toList_echo_uppercase, trim_uppercase,
        trim_trim, ← trim_uppercase, uppercase_uppercase]

/-- The line that a line of the log shows behind its angle bracket; a message shows none. -/
def LogLine.echoed? (l : LogLine) : Option String :=
  if l.kind = .command then some (String.ofList (l.text.toList.drop 2)) else none

/-- The lines that a journal shows, oldest first. -/
def Journal.script (j : Journal) : List String := j.entries.filterMap fun e => e.line.echoed?

/-- The log shows one line of every outcome. -/
theorem Outcome.filterMap_logLines (o : Outcome) :
    o.logLines.filterMap LogLine.echoed? = [o.echo] := by
  have hkind : messageKind o.status ≠ .command := by
    cases h : o.status.isOk <;> simp [messageKind, h]
  simp [logLines, LogLine.echoed?, hkind, String.toList_append]

namespace Session

/-! ### One line -/

variable {s : Session} {line : String} {now : Nat} {o : Outcome}

/-- **An echo is read as its line is.** -/
theorem commandOf_echo (s : Session) (line : String) :
    s.commandOf (s.settings.casePolicy.echo line) = s.commandOf line := by
  have hecho (l : String) : s.commandOf l = Command.read (s.settings.casePolicy.echo l) :=
    (Command.read_trimmed _).symm
  rw [hecho, CasePolicy.echo_echo, ← hecho]

theorem submit_echo (s : Session) (line : String) (now : Nat) :
    s.submit (s.settings.casePolicy.echo line) now = s.submit line now := by
  rw [submit, commandOf_echo, submit]

/-- An outcome has the echo of its line. -/
theorem echo_of_submit (h : (s.submit line now).2 = some o) :
    o.echo = s.settings.casePolicy.echo line := by
  rw [submit_snd] at h
  cases hc : (s.commandOf line).isEmpty with
  | true =>
      rw [World.apply_of_isEmpty hc] at h
      cases h
  | false =>
      rw [World.apply_of_not_isEmpty hc] at h
      obtain rfl := Option.some.inj h
      exact Command.raw_read _

theorem echo_of_head?_logLines {e : String}
    (h : o.logLines.head?.map LogLine.text = some ("> " ++ e)) : o.echo = e := by
  rw [← String.toList_inj]
  have htext := congrArg String.toList (Option.some.inj h)
  rw [String.toList_append, String.toList_append] at htext
  exact List.append_cancel_left htext

/-! ### Runs -/

/-- An operation with its line as the log shows it; a blank line is left out. -/
def Operation.scripted? (policy : CasePolicy) : Operation → Option Operation
  | .submit line now =>
    if allBlank line.toList then none else some (.submit (policy.echo line) now)
  | op => some op

/-- A run with every line as the log shows it and no blank ones. -/
def script (s : Session) (ops : List Operation) : List Operation :=
  ops.filterMap (Operation.scripted? s.settings.casePolicy)

theorem script_cons (s : Session) (op : Operation) (ops : List Operation) :
    s.script (op :: ops) = (op.scripted? s.settings.casePolicy).toList ++ s.script ops := by
  rw [script, List.filterMap_cons, script]
  cases op.scripted? s.settings.casePolicy <;> rfl

theorem script_perform (s : Session) (op : Operation) (ops : List Operation) :
    (s.perform op).1.script ops = s.script ops := by
  rw [script, settings_perform, script]

/-- What is left out of a script does nothing. -/
theorem perform_of_scripted?_none {op : Operation}
    (h : op.scripted? s.settings.casePolicy = none) : s.perform op = (s, .outcome none) := by
  cases op with
  | submit line now =>
      rw [Operation.scripted?] at h
      split at h
      · rename_i hblank
        have hnone : (s.submit line now).2 = none := submit_eq_none_iff_allBlank.2 hblank
        rw [perform_submit, submit_of_none hnone, hnone]
      · cases h
  | reset now => cases h
  | dismiss id => cases h
  | expire now => cases h

/-- What is scripted does what was typed. -/
theorem perform_of_scripted?_some {op op' : Operation}
    (h : op.scripted? s.settings.casePolicy = some op') : s.perform op' = s.perform op := by
  cases op with
  | submit line now =>
      rw [Operation.scripted?] at h
      split at h
      · cases h
      · obtain rfl := Option.some.inj h
        rw [perform_submit, perform_submit, submit_echo]
  | reset now => rw [← Option.some.inj h]
  | dismiss id => rw [← Option.some.inj h]
  | expire now => rw [← Option.some.inj h]

/-- The echo of an operation is the line that is scripted for it. -/
theorem map_echo_perform (s : Session) (op : Operation) :
    (s.perform op).2.outcome?.map Outcome.echo =
      (op.scripted? s.settings.casePolicy).bind Operation.line? := by
  cases op with
  | submit line now =>
      rw [perform_submit, Answer.outcome?, Operation.scripted?]
      split
      · rename_i hblank
        rw [submit_eq_none_iff_allBlank.2 hblank]
        rfl
      · rename_i hblank
        obtain ⟨o, ho⟩ := Option.ne_none_iff_exists'.1 (mt submit_eq_none_iff_allBlank.1 hblank)
        rw [ho, Option.map_some, echo_of_submit ho]
        rfl
  | reset now => rfl
  | dismiss id => rfl
  | expire now => rfl

/-- **A script is run in place of what was typed.** -/
theorem run_script (s : Session) (ops : List Operation) : s.run (s.script ops) = s.run ops := by
  induction ops generalizing s with
  | nil => rfl
  | cons op ops ih =>
      rw [script_cons, run_append, run_cons, ← ih, script_perform]
      cases h : op.scripted? s.settings.casePolicy with
      | none => rw [perform_of_scripted?_none h]; rfl
      | some op' => rw [← perform_of_scripted?_some h]; rfl

/-- It has the same outcomes. -/
theorem outcomes_script (s : Session) (ops : List Operation) :
    s.outcomes (s.script ops) = s.outcomes ops := by
  induction ops generalizing s with
  | nil => rfl
  | cons op ops ih =>
      rw [script_cons, outcomes_cons, ← ih, script_perform]
      cases h : op.scripted? s.settings.casePolicy with
      | none => rw [perform_of_scripted?_none h]; rfl
      | some op' => rw [← perform_of_scripted?_some h, Option.toList_some, List.singleton_append,
          outcomes_cons]

/-! ### The log -/

theorem filterMap_flatMap_logLines (os : List Outcome) :
    (os.flatMap Outcome.logLines).filterMap LogLine.echoed? = os.map Outcome.echo := by
  induction os with
  | nil => rfl
  | cons o os ih =>
      rw [List.flatMap_cons, List.filterMap_append, Outcome.filterMap_logLines, ih, List.map_cons,
        List.singleton_append]

/-- The echoes are the lines of the script. -/
theorem map_echo_outcomes (s : Session) (ops : List Operation) :
    (s.outcomes ops).map Outcome.echo = (s.script ops).filterMap Operation.line? := by
  induction ops generalizing s with
  | nil => rfl
  | cons op ops ih =>
      have hecho := s.map_echo_perform op
      rw [outcomes_cons, List.map_append, ih, script_perform, ← Option.toList_map, hecho,
        script_cons, List.filterMap_append]
      congr 1
      cases op.scripted? s.settings.casePolicy with
      | none => rfl
      | some op' => cases hline : op'.line? <;> simp [hline]

/-- A journal that was never cleared and in which nothing had to make room holds every line that
the outcomes write. -/
theorem Logged.lines_eq {capacity : Nat} {h : Stretches Outcome} (hs : Logged capacity h s)
    (hresets : s.tally.resets = 0) (hgone : s.tally.linesEvicted = 0) :
    s.journal.entries.map Journal.Entry.line = h.series.flatMap Outcome.logLines := by
  have hended : h.ended = [] := List.eq_nil_of_length_eq_zero (hs.resets_eq ▸ hresets)
  have hseries : h.series = h.current := by simp [Stretches.series, Stretches.all, hended]
  have hroom : (h.current.flatMap Outcome.logLines).length - capacity = 0 := by
    have hsurplus := hs.linesEvicted_eq
    rw [hgone, Stretches.surplus, Stretches.all_flatMap, Stretches.all, hended] at hsurplus
    simpa using hsurplus.symm
  rw [hs.shows.lines_eq, hseries, Stretches.flatMap, List.rtake, hroom, List.drop_zero]

/-- **A journal that lacks nothing shows the lines of the script.** -/
theorem journal_script {A : Settings} (hs : Session.start A = .ok s) {ops : List Operation}
    (hresets : (s.run ops).tally.resets = 0) (hgone : (s.run ops).tally.linesEvicted = 0) :
    (s.run ops).journal.script = (s.script ops).filterMap Operation.line? := by
  have hlines := ((Logged.start hs).run ops).lines_eq hresets hgone
  have hseries : ((s.answers ops).foldl Answer.tellTo {}).series = s.outcomes ops :=
    series_tellTo _ _
  rw [hseries] at hlines
  rw [← map_echo_outcomes, ← filterMap_flatMap_logLines, ← hlines, List.filterMap_map]
  rfl

/-- **An echo stands for its line.**  Upper-casing is idempotent on every text, and it leaves the
blanks of a text as they are.  So in every session, if a line has an outcome whose first line for
the log is `> e`, then `e` is read as the same command, and submitting `e` in place of the line
gives the same outcome, with this very echo, and the same session.

Therefore every run can be replaced by its script, in which each line is as the log shows it and the
blank ones are left out: the session ends the same and has had the same outcomes on the way.  The
lines of the script are those that the outcomes have written in the log, and the journal of a
session that was never reset shows them all if no line had to make room. -/
theorem echo_stands_for_line :
    (∀ text, uppercase (uppercase text) = uppercase text ∧
      (uppercase text).filter isBlank = text.filter isBlank) ∧
    (∀ (s : Session) (line : String) (now : Nat) (o : Outcome) (e : String),
      (s.submit line now).2 = some o → o.logLines.head?.map LogLine.text = some ("> " ++ e) →
      s.commandOf e = s.commandOf line ∧ s.submit e now = s.submit line now) ∧
    (∀ (s : Session) (ops : List Operation),
      s.run (s.script ops) = s.run ops ∧ s.outcomes (s.script ops) = s.outcomes ops ∧
      ((s.outcomes ops).flatMap Outcome.logLines).filterMap LogLine.echoed? =
        (s.script ops).filterMap Operation.line?) ∧
    ∀ (A : Settings) (s : Session), start A = .ok s → ∀ ops : List Operation,
      (s.run ops).tally.resets = 0 → (s.run ops).tally.linesEvicted = 0 →
      (s.run ops).journal.script = (s.script ops).filterMap Operation.line? := by
  refine ⟨fun text => ⟨uppercase_uppercase text, filter_isBlank_uppercase text⟩, ?_, ?_, ?_⟩
  · intro s line now o e ho hhead
    have he : e = s.settings.casePolicy.echo line :=
      (echo_of_head?_logLines hhead).symm.trans (echo_of_submit ho)
    rw [he]
    exact ⟨commandOf_echo s line, submit_echo s line now⟩
  · intro s ops
    refine ⟨run_script s ops, outcomes_script s ops, ?_⟩
    rw [filterMap_flatMap_logLines, map_echo_outcomes]
  · intro A s hs ops hresets hgone
    exact journal_script hs hresets hgone

/-- Lines in small letters and with blanks around them, one of which grows in upper case. -/
def careless : List Operation :=
  [.submit "\u3000place_robot 4,4, east " 5, .submit "\u2003" 6, .submit " straße\t" 7,
    .dismiss 2, .submit "moVe" 9]

/-- The hypotheses of `TorusRobot.Session.echo_stands_for_line` are met by the usual settings, under
which these lines are shown in upper case. -/
theorem echo_stands_for_line_careless :
    (fresh {}).commandOf "STRASSE" = (fresh {}).commandOf " straße\t" ∧
      (fresh {}).submit "STRASSE" 7 = (fresh {}).submit " straße\t" 7 ∧
      ((fresh {}).run careless).journal.script = ["PLACE_ROBOT 4,4, EAST", "STRASSE", "MOVE"] ∧
      (fresh {}).run [.submit "PLACE_ROBOT 4,4, EAST" 5, .submit "STRASSE" 7, .dismiss 2,
        .submit "MOVE" 9] = (fresh {}).run careless := by
  obtain ⟨-, hline, hrun, hjournal⟩ := echo_stands_for_line
  have hstart : Session.start {} = .ok (fresh {}) := rfl
  have hscript : (fresh {}).script careless = [.submit "PLACE_ROBOT 4,4, EAST" 5,
      .submit "STRASSE" 7, .dismiss 2, .submit "MOVE" 9] := by
    decide +kernel
  have ho : ((fresh {}).submit " straße\t" 7).2 =
      some ((Verdict.unknown "STRASSE").outcome "STRASSE") := by
    decide +kernel
  obtain ⟨hcommand, hsubmit⟩ := hline (fresh {}) " straße\t" 7 _ "STRASSE" ho rfl
  refine ⟨hcommand, hsubmit, ?_, ?_⟩
  · rw [hjournal {} (fresh {}) hstart careless (by decide +kernel) (by decide +kernel), hscript]
    rfl
  · exact hscript ▸ (hrun (fresh {}) careless).1

end Session

end TorusRobot
