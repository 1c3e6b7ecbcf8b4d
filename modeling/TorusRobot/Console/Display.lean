/-
**What the console shows.**

Main definitions:

* `TorusRobot.Console.logText` — a line of the log with its kind in front;
* `TorusRobot.Console.banner` — a notice in one line;
* `TorusRobot.Event.lines` — the lines that tell an event.
-/
import TorusRobot.Dispatch.Worker

set_option relaxedAutoImplicit false
set_option autoImplicit false

namespace TorusRobot

namespace Console

/-- The width of the column of kinds. -/
def kindWidth : Nat := 7

/-- A text filled up with spaces to a width. -/
def padRight (width : Nat) (s : String) : String :=
  s ++ String.ofList (List.replicate (width - s.length) ' ')

/-- A line of the log with its kind in front. -/
def logText (l : LogLine) : String := padRight kindWidth l.kind.name ++ " " ++ l.text

/-- The number of a notice as it is shown. -/
def idText (id : Nat) : String := "#" ++ Text.Decimal.text id

/-- A notice in one line. -/
def banner (n : Notice) (id : Nat) : String :=
  "[" ++ n.severity.name ++ "] " ++ n.title ++ ": " ++ n.message ++ " (" ++ idText id ++ ")"

end Console

/-- The lines that tell an event. -/
def Event.lines : Event → List String
  | .applied _ outcome _ id? =>
    outcome.logLines.map Console.logText ++
      match outcome.notice, id? with
      | some notice, some id => [Console.banner notice id]
      | _, _ => []
  | .reset id => ["[info] SYSTEM_RESET: State cleared. (" ++ Console.idText id ++ ")"]
  | .dismissed id true => ["(" ++ Console.idText id ++ " dismissed)"]
  | .dismissed id false => ["(" ++ Console.idText id ++ " not active)"]
  | .expired ids => ["(" ++ String.intercalate ", " (ids.map Console.idText) ++ " expired)"]

end TorusRobot
