/-
**Settings of a session.**

Settings say how large the grid is, how lines are treated before they are read, how much the log
and the tray hold, and how long notices live.  They are checked once, when a session starts.

Main definitions:

* `TorusRobot.CasePolicy` — what happens to upper and lower case before a line is read;
* `TorusRobot.Settings` — the settings of a session;
* `TorusRobot.Settings.check` — the first thing that is wrong with settings;
* `TorusRobot.Settings.Fault` — what can be wrong.

Main results:

* `TorusRobot.Settings.check_eq_ok_iff` — which settings are valid.
-/
import TorusRobot.Grid.Axis
import TorusRobot.Text.Uppercase

set_option relaxedAutoImplicit false
set_option autoImplicit false

namespace TorusRobot

/-! ### Case -/

/-- What happens to upper and lower case before a line is read. -/
inductive CasePolicy where
  /-- The whole line is put in upper case. -/
  | uppercase
  | exact
deriving DecidableEq, Repr

/-- The line that is read in place of a typed one. -/
def CasePolicy.normalize (policy : CasePolicy) (line : String) : String :=
  match policy with
  | .uppercase => String.ofList (Text.uppercase line.toList)
  | .exact => line

@[simp] theorem CasePolicy.normalize_exact (line : String) : exact.normalize line = line := rfl

/-! ### Settings -/

/-- The settings of a session. -/
structure Settings where
  side : UInt32 := Grid.defaultSide
  logCapacity : Nat := 200
  trayCapacity : Nat := 4
  /-- The lifetime in milliseconds of a notice that asks for none. -/
  noticeLifetime : Nat := 2800
  /-- The lifetime in milliseconds of the notice of a reset. -/
  resetLifetime : Nat := 2600
  casePolicy : CasePolicy := .uppercase
deriving DecidableEq, Repr

namespace Settings

/-- The two lifetimes that can be set. -/
inductive Lifetime where
  | notice
  | reset
deriving DecidableEq, Repr

/-- The name of a lifetime. -/
def Lifetime.name : Lifetime → String
  | notice => "default_notification_ms"
  | reset => "reset_notification_ms"

/-- Why a session does not start. -/
inductive Fault where
  | grid (fault : Grid.SideFault)
  | emptyLog
  | emptyTray
  | zeroLifetime (lifetime : Lifetime)
  /-- The thread that would run the session could not be started. -/
  | notStarted (reason : String)
deriving DecidableEq, Repr

/-- The wording of a fault. -/
def Fault.message : Fault → String
  | grid fault => "grid: " ++ fault.message
  | emptyLog => "log_capacity must be at least 1"
  | emptyTray => "notification_capacity must be at least 1"
  | zeroLifetime lifetime => lifetime.name ++ " must be at least 1 ms"
  | notStarted reason => "thread spawn failed: " ++ reason

/-- The wording of the fault behind a fault. -/
def Fault.cause? : Fault → Option String
  | grid fault => some fault.message
  | _ => none

/-- The first thing that is wrong with settings, in the order of their fields. -/
def check (s : Settings) : Except Fault Unit :=
  match Grid.checkSide s.side with
  | .error fault => .error (.grid fault)
  | .ok _ =>
    if s.logCapacity = 0 then .error .emptyLog
    else if s.trayCapacity = 0 then .error .emptyTray
    else if s.noticeLifetime = 0 then .error (.zeroLifetime .notice)
    else if s.resetLifetime = 0 then .error (.zeroLifetime .reset)
    else .ok ()

/-- Settings are valid when there is such a grid and nothing else is zero. -/
theorem check_eq_ok_iff {s : Settings} :
    s.check = .ok () ↔
      (1 ≤ s.side.toNat ∧ s.side.toNat ≤ 4096) ∧ s.logCapacity ≠ 0 ∧ s.trayCapacity ≠ 0 ∧
        s.noticeLifetime ≠ 0 ∧ s.resetLifetime ≠ 0 := by
  have hside (n : UInt32) :
      Grid.checkSide s.side = .ok n ↔ n = s.side ∧ 1 ≤ s.side.toNat ∧ s.side.toNat ≤ 4096 :=
    Grid.checkSide_eq_ok_iff
  unfold check
  cases h : Grid.checkSide s.side with
  | error fault =>
      have := hside s.side
      rw [h] at this
      simp only [reduceCtorEq, true_and, false_iff] at this
      simp [this]
  | ok n =>
      have hn := (hside n).1 h
      simp only [hn.2, true_and, and_self]
      repeat' split
      all_goals simp [*]

end Settings

end TorusRobot
