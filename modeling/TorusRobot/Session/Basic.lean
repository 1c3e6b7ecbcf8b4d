/-
**Sessions.**

A session carries out one line after another on its world and keeps a journal, a tray of notices
and a tally.  Every operation that depends on the time is told what time it is.

Main definitions:

* `TorusRobot.Session` — a world, its journal, its tray and its tally;
* `TorusRobot.Session.start` — a fresh session, or why the settings allow none;
* `TorusRobot.Session.submit`, `TorusRobot.Session.reset`, `TorusRobot.Session.dismiss`,
  `TorusRobot.Session.expire` — what can be done in a session.

Main results:

* `TorusRobot.Session.submit_eq_none_iff` — only lines read as the empty command have no outcome;
* `TorusRobot.Session.submit_of_none` — and they change nothing.
-/
import TorusRobot.Session.Journal
import TorusRobot.Session.Settings
import TorusRobot.Session.Tally
import TorusRobot.Session.Tray
import TorusRobot.World.Judgment

set_option relaxedAutoImplicit false
set_option autoImplicit false

namespace TorusRobot

/-- A world that is being worked on. -/
structure Session where
  /-- The settings, which never change. -/
  settings : Settings
  world : World
  journal : Journal
  tray : Tray
  tally : Tally
deriving DecidableEq, Repr

namespace Session

/-! ### Starting -/

/-- The fresh session with the given settings. -/
def fresh (s : Settings) : Session :=
  { settings := s
    world := { side := s.side }
    journal := Journal.ofCapacity s.logCapacity
    tray := Tray.ofCapacity s.trayCapacity s.noticeLifetime
    tally := {} }

/-- A fresh session, or the first thing that is wrong with its settings. -/
def start (s : Settings) : Except Settings.Fault Session := s.check.map fun _ => fresh s

theorem start_eq_ok_iff {s : Settings} {session : Session} :
    start s = .ok session ↔ s.check = .ok () ∧ session = fresh s := by
  unfold start
  cases h : s.check <;> simp [Except.map, eq_comm]

/-! ### Lines -/

/-- A notice is put in the tray and counted; its number is told. -/
def notify (s : Session) (notice : Notice) (now : Nat) : Session × Nat :=
  let pushed := s.tray.push notice now
  ({ s with tray := pushed.tray, tally := s.tally.countNotice pushed.evicted.length }, pushed.id)

/-- The command that a line stands for in a session. -/
def commandOf (s : Session) (line : String) : Command :=
  Command.read (s.settings.casePolicy.normalize line)

/-- An outcome is written in the journal and counted, and its notice is put in the tray. -/
def absorb (s : Session) (o : Outcome) (now : Nat) : Session :=
  let (journal, gone) := s.journal.append o.logLines
  let tally := { s.tally with linesEvicted := s.tally.linesEvicted + gone }.countStatus o.status
  let s := { s with journal := journal, tally := tally }
  match o.notice with
  | some notice => (s.notify notice now).1
  | none => s

/-- A line is carried out.  A blank line has no outcome and changes nothing. -/
def submit (s : Session) (line : String) (now : Nat) : Session × Option Outcome :=
  match s.world.apply (s.commandOf line) with
  | (none, _) => (s, none)
  | (some outcome, world) => ({ s with world := world }.absorb outcome now, some outcome)

/-- A line without an outcome changes nothing. -/
theorem submit_of_none {s : Session} {line : String} {now : Nat}
    (h : (s.submit line now).2 = none) : (s.submit line now).1 = s := by
  unfold submit at h ⊢
  split at h <;> simp_all

/-- Only a line read as the empty command has no outcome. -/
theorem submit_eq_none_iff {s : Session} {line : String} {now : Nat} :
    (s.submit line now).2 = none ↔ (s.commandOf line).isEmpty = true := by
  unfold submit World.apply
  cases h : (s.commandOf line).isEmpty <;> simp

/-! ### Resets and notices -/

/-- The notice of a reset. -/
def resetNotice (s : Session) : Notice :=
  ⟨.info, "SYSTEM_RESET", "State cleared.", some s.settings.resetLifetime⟩

/-- World, journal and tray are emptied, the reset is counted, and its notice is shown; the number
of the notice is told. -/
def reset (s : Session) (now : Nat) : Session × Nat :=
  let s' : Session :=
    { s with
      world := s.world.cleared
      journal := s.journal.clear
      tray := s.tray.clear
      tally := { s.tally with resets := s.tally.resets + 1 } }
  s'.notify s.resetNotice now

/-- The notice with a given number is taken away; the flag tells whether it was on show. -/
def dismiss (s : Session) (id : Nat) : Session × Bool :=
  let (tray, removed) := s.tray.dismiss id
  let gone := if removed then 1 else 0
  ({ s with tray := tray, tally := { s.tally with dismissed := s.tally.dismissed + gone } },
    removed)

/-- The notices whose deadline has come are taken away, and their numbers are told. -/
def expire (s : Session) (now : Nat) : Session × List Nat :=
  let (tray, gone) := s.tray.expire now
  ({ s with tray := tray, tally := { s.tally with expired := s.tally.expired + gone.length } },
    gone)

end Session

end TorusRobot
