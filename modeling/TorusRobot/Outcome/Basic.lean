/-
**Outcomes.**

A command that is not blank has one outcome: a status, a message, perhaps a notice to show for a
while, and two lines for the log, the echo of the command and the message.

Main definitions:

* `TorusRobot.Notice` — a short-lived message to the user;
* `TorusRobot.LogLine` — a line for the log;
* `TorusRobot.Outcome` — the result of a command;
* `TorusRobot.Outcome.logLines` — its two lines for the log.
-/
import TorusRobot.Outcome.Status

set_option relaxedAutoImplicit false
set_option autoImplicit false

namespace TorusRobot

/-- A short-lived message to the user. -/
structure Notice where
  severity : Severity
  title : String
  message : String
  /-- For how many milliseconds it asks to be shown; `none` leaves that to who shows it. -/
  lifetime : Option Nat := none
deriving DecidableEq, Repr

/-- A line for the log. -/
structure LogLine where
  kind : LineKind
  text : String
deriving DecidableEq, Repr

/-- The result of a command. -/
structure Outcome where
  echo : String
  status : Status
  message : String
  notice : Option Notice
deriving DecidableEq, Repr

namespace Outcome

/-- The kind of line that tells a message of the given status. -/
def messageKind (s : Status) : LineKind := if s.isOk then .output else .error

/-- The lines that an outcome adds to the log: the echo after an angle bracket, then the
message. -/
def logLines (o : Outcome) : List LogLine :=
  [⟨.command, "> " ++ o.echo⟩, ⟨messageKind o.status, o.message⟩]

@[simp] theorem length_logLines (o : Outcome) : o.logLines.length = 2 := rfl

end Outcome

end TorusRobot
