/-
**Status, severity and kinds of log lines.**

The small vocabularies in which the result of a command is told.

Main definitions:

* `TorusRobot.Status` — how a command went;
* `TorusRobot.Severity` — how much a notice matters;
* `TorusRobot.LineKind` — what a line of the log holds.
-/

set_option relaxedAutoImplicit false
set_option autoImplicit false

namespace TorusRobot

/-! ### Status -/

/-- How a command went. -/
inductive Status where
  | ok
  | blocked
  /-- It is unknown, malformed or not allowed. -/
  | invalid
  /-- It needs a robot and there is none. -/
  | notPlaced
deriving DecidableEq, Repr

namespace Status

/-- The statuses in their usual order. -/
def all : List Status := [ok, blocked, invalid, notPlaced]

/-- The name of a status. -/
def name : Status → String
  | ok => "OK"
  | blocked => "BLOCKED"
  | invalid => "INVALID"
  | notPlaced => "NOT_PLACED"

/-- Whether the command took effect. -/
def isOk (s : Status) : Bool := s = ok

end Status

/-! ### Severity -/

/-- How much a notice matters. -/
inductive Severity where
  | info
  | success
  | warning
  | error
deriving DecidableEq, Repr

namespace Severity

/-- The severities from the mildest on. -/
def all : List Severity := [info, success, warning, error]

/-- The name of a severity. -/
def name : Severity → String
  | info => "info"
  | success => "success"
  | warning => "warning"
  | error => "error"

end Severity

/-! ### Kinds of log lines -/

/-- What a line of the log holds. -/
inductive LineKind where
  | command
  | output
  | error
deriving DecidableEq, Repr

namespace LineKind

/-- The kinds in their usual order. -/
def all : List LineKind := [command, output, error]

/-- The name of a kind. -/
def name : LineKind → String
  | command => "command"
  | output => "output"
  | error => "error"

end LineKind

end TorusRobot
