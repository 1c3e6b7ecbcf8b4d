/-
**Lines typed at the console.**

A line is a command for the session unless its first character that is not blank is a colon; then
it is a control of the console itself.  Blank lines are skipped.

Main definitions:

* `TorusRobot.Console.Input` — what a line asks for;
* `TorusRobot.Console.Input.ofLine` — what a given line asks for;
* `TorusRobot.Console.cutLines`, `TorusRobot.Console.linesOf` — the lines in what was typed.

Main results:

* `TorusRobot.Console.Input.ofLine_eq_skip_iff` — exactly the blank lines are skipped.
-/
import TorusRobot.Dispatch.Worker
import TorusRobot.Text.Utf8

set_option relaxedAutoImplicit false
set_option autoImplicit false

namespace TorusRobot.Console

/-! ### One line -/

/-- What a line asks for. -/
inductive Input where
  | request (r : Request)
  | skip
  | quit
  /-- Nothing that exists; the reason is to be told. -/
  | rejected (reason : String)
deriving DecidableEq, Repr

namespace Input

/-- The numbers of notices are below this one. -/
def idBound : Nat := UInt64.size

/-- What the words after the colon ask for; `line` is the trimmed line. -/
def ofWords (line : String) : List String → Input
  | ["reset"] => .request .reset
  | ["quit"] => .quit
  | ["dismiss", id] =>
    match Text.Decimal.naturalBelow? idBound id.toList with
    | some n => .request (.dismiss n)
    | none => .rejected ("not a notification id: " ++ id)
  | _ => .rejected ("unknown control: " ++ line)

/-- What a line asks for.  A command is passed on as it was typed, blanks included. -/
def ofLine (line : String) : Input :=
  match Text.trim line.toList with
  | [] => .skip
  | ':' :: rest => ofWords (String.ofList (':' :: rest)) ((Text.words rest).map String.ofList)
  | _ => .request (.submit line)

/-- Words never ask for nothing. -/
theorem ofWords_ne_skip (line : String) (ws : List String) : ofWords line ws ≠ .skip := by
  unfold ofWords
  repeat' split
  all_goals simp

/-- Exactly the blank lines are skipped. -/
theorem ofLine_eq_skip_iff {line : String} :
    ofLine line = .skip ↔ Text.allBlank line.toList = true := by
  rw [← Text.trim_eq_nil_iff, ofLine]
  split
  · rename_i h
    simp [h]
  · rename_i h
    simp [h, ofWords_ne_skip]
  · rename_i h _
    exact iff_of_false (by simp) h

end Input

/-! ### Many lines -/

/-- The byte that ends a line. -/
def lineFeed : UInt8 := 0x0A

/-- The byte that may stand before the end of a line and belongs to it. -/
def carriageReturn : UInt8 := 0x0D

/-- A line that was ended, without a carriage return at its end. -/
def stripReturn (bs : List UInt8) : List UInt8 :=
  if bs.getLast? = some carriageReturn then bs.dropLast else bs

/-- The lines in bytes that were ended, and the bytes after the last of them; `line` holds the bytes
of the current line, last first. -/
def cutFrom (line : List UInt8) : List UInt8 → List (List UInt8) × List UInt8
  | [] => ([], line.reverse)
  | b :: bs =>
    if b = lineFeed then
      let (lines, rest) := cutFrom [] bs
      (stripReturn line.reverse :: lines, rest)
    else cutFrom (b :: line) bs

/-- The lines in bytes that were ended, and the bytes after the last of them. -/
def cutLines (bs : List UInt8) : List (List UInt8) × List UInt8 := cutFrom [] bs

/-- The text of a line, if its bytes are a text. -/
def lineText? (bs : List UInt8) : Option String :=
  match Text.Utf8.decode bs with
  | .ok text => some text
  | .error _ => none

/-- The last line, which was not ended; there is none without bytes. -/
def lastLine (bs : List UInt8) : List (List UInt8) := if bs.isEmpty then [] else [bs]

/-- The lines in all that was typed.  Lines that are no text are left out. -/
def linesOf (bs : List UInt8) : List String :=
  let (lines, rest) := cutLines bs
  (lines ++ lastLine rest).filterMap lineText?

end TorusRobot.Console
