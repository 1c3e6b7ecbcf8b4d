/-
**Command lines.**

A line is a verb, then blanks, then arguments separated by commas.  Every text can be read as a
command; whether the verb exists and the arguments suit it is decided when it is carried out.

Main definitions:

* `TorusRobot.Command` — a verb, arguments, and the text to echo;
* `TorusRobot.Command.read` — the command that a line stands for;
* `TorusRobot.Command.line` — the usual line for a command.

Main results:

* `TorusRobot.Command.isEmpty_read_iff` — exactly the blank lines give the empty command.
-/
import TorusRobot.Command.Verb
import TorusRobot.Text.Blank

set_option relaxedAutoImplicit false
set_option autoImplicit false

namespace TorusRobot

/-- A verb and its arguments, neither of them checked. -/
structure Command where
  /-- The word that says what to do, as it was typed. -/
  verb : String
  args : List String
  /-- The text that the log echoes. -/
  raw : String
deriving DecidableEq, Repr

namespace Command

/-- The command of a blank line. -/
def empty : Command := ⟨"", [], ""⟩

/-- Whether a command asks for nothing. -/
def isEmpty (c : Command) : Bool := c.verb = ""

/-- The arguments in a text: its pieces between commas, trimmed, the blank ones left out. -/
def arguments (s : List Char) : List (List Char) :=
  ((Text.pieces ',' (Text.trim s)).map Text.trim).filter fun a => !a.isEmpty

/-- The command that a line stands for.  The line is trimmed; its verb goes up to the first blank,
and its arguments are in what follows that blank. -/
def read (line : String) : Command :=
  let s := Text.trim line.toList
  if s.isEmpty then empty
  else
    let (verb, rest) := Text.breakAtBlank s
    ⟨String.ofList verb, (arguments rest).map String.ofList, String.ofList s⟩

/-- Exactly the blank lines give the empty command. -/
theorem isEmpty_read_iff {line : String} :
    (read line).isEmpty = true ↔ Text.allBlank line.toList = true := by
  rw [← Text.trim_eq_nil_iff, read]
  cases hs : Text.trim line.toList with
  | nil => simp [empty, isEmpty]
  | cons c s =>
      have hc := Text.isBlank_of_trim hs
      simp [isEmpty, Text.breakAtBlank, hc]

/-- The usual line for a command: the verb, a space, and the arguments between commas. -/
def line (c : Command) : String := c.verb ++ " " ++ String.intercalate "," c.args

end Command

end TorusRobot
