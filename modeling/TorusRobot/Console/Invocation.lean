/-
**How the console is called.**

Options are read from left to right, and the first thing that is wrong or that asks for the version
decides.  A value follows its option as the next argument, unless that looks like an option, or
after an equals sign.

Main definitions:

* `TorusRobot.Console.Invocation` — what the console is called for;
* `TorusRobot.Console.Invocation.ofArgs` — what given arguments call it for.
-/
import TorusRobot.Grid.Axis

set_option relaxedAutoImplicit false
set_option autoImplicit false

namespace TorusRobot.Console

/-- What the console is called for. -/
inductive Invocation where
  /-- To run a session, and to record it if there is a path. -/
  | interact (side : UInt32) (record : Option String)
  | verify (path : String)
  | version
  | help
  | misuse
deriving DecidableEq, Repr

namespace Invocation

/-- The options that take a value. -/
inductive Opt where
  | side
  | record
  | verify
deriving DecidableEq, Repr

/-- The option with a given name. -/
def Opt.ofName? (name : String) : Option Opt :=
  if name = "--grid-size" then some side
  else if name = "--record" then some record
  else if name = "--verify" then some verify
  else none

/-- The values that options have got. -/
structure Values where
  side : Option UInt32 := none
  record : Option String := none
  verify : Option String := none
deriving DecidableEq, Repr

/-- The side that a value stands for: a whole number of 32 bits, perhaps with a sign. -/
def sideOf? (value : String) : Option UInt32 :=
  (Text.Decimal.integerWithin? 0 (UInt32.size - 1) value.toList).map fun i => UInt32.ofNat i.toNat

/-- An option gets its value; it must not have one yet, and the value must suit it. -/
def Values.set (v : Values) (o : Opt) (value : String) : Option Values :=
  match o with
  | .side =>
    match v.side, sideOf? value with
    | none, some side => some { v with side := some side }
    | _, _ => none
  | .record =>
    if v.record.isNone && value != "" then some { v with record := some value } else none
  | .verify =>
    if v.verify.isNone && value != "" then some { v with verify := some value } else none

/-- Whether an argument looks like an option, so that it is not the value of one. -/
def looksLikeOption (arg : String) : Bool :=
  match arg.toList with
  -- A dash alone is a value like any other.
  | '-' :: _ :: _ => true
  | _ => false

/-- An argument split at its first equals sign, if it has one. -/
def splitValue (arg : String) : String × Option String :=
  let cs := arg.toList
  match cs.dropWhile fun c => c != '=' with
  | [] => (arg, none)
  | _ :: value => (String.ofList (cs.takeWhile fun c => c != '='), some (String.ofList value))

/-- What the values call the console for; a session is not recorded while a recording is
verified. -/
def ofValues (v : Values) : Invocation :=
  match v.record, v.verify with
  | some _, some _ => .misuse
  | record, none => .interact (v.side.getD Grid.defaultSide) record
  | none, some path => .verify path

/-- Whether an argument is a cluster of short flags that starts with the given one. -/
def isShort (flag : Char) (arg : String) : Bool :=
  match arg.toList with
  | '-' :: c :: _ => c = flag
  | _ => false

/-- What the arguments to come call the console for, when options have the given values. -/
def read (v : Values) : List String → Invocation
  | [] => ofValues v
  | arg :: args =>
    if arg = "--" then if args.isEmpty then ofValues v else .misuse
    else if arg = "--version" || isShort 'V' arg then .version
    else if arg = "--help" || isShort 'h' arg then .help
    else
      match splitValue arg with
      | (name, some value) =>
        match Opt.ofName? name with
        | some o =>
          match v.set o value with
          | some v => read v args
          | none => .misuse
        | none => .misuse
      | (name, none) =>
        match Opt.ofName? name, args with
        | some o, value :: rest =>
          if looksLikeOption value then .misuse
          else
            match v.set o value with
            | some v => read v rest
            | none => .misuse
        | _, _ => .misuse

/-- What the arguments call the console for. -/
def ofArgs (args : List String) : Invocation := read {} args

end Invocation

end TorusRobot.Console
