/-
**The whole program.**

The program is called with arguments, reads what is typed and works on files.  It prints lines, ends
with a code, and explains a failure together with its causes.

Main definitions:

* `TorusRobot.Console.Complaint` — why the program fails;
* `TorusRobot.Console.Report` — what a run of the program comes to;
* `TorusRobot.Console.verify` — verifying the bytes of a recording;
* `TorusRobot.Console.run` — a run of the program.
-/
import TorusRobot.Console.Basic
import TorusRobot.Console.FileStore
import TorusRobot.Console.Invocation
import TorusRobot.Replay.Verification

set_option relaxedAutoImplicit false
set_option autoImplicit false

namespace TorusRobot.Console

open Recording Replay

/-! ### Failures -/

/-- Why the program fails. -/
inductive Complaint where
  | settings (fault : Settings.Fault)
  /-- The recording names settings of which there is no session. -/
  | recordedSettings (fault : Settings.Fault)
  | cannotCreate (path reason : String)
  | cannotOpen (path reason : String)
  | recording (fault : Fault)
  | divergence (d : Divergence)
deriving DecidableEq, Repr

namespace Complaint

/-- What is printed of a failure, and then of its causes, the nearest first. -/
def texts : Complaint → String × List String
  | settings fault => ("invalid session configuration", fault.message :: fault.cause?.toList)
  | recordedSettings fault => (fault.message, fault.cause?.toList)
  | cannotCreate path reason => ("failed to create replay file " ++ path, [reason])
  | cannotOpen path reason => ("failed to open replay file " ++ path, [reason])
  | recording fault => (fault.message, fault.cause?.toList)
  | divergence d => (d.message, [])

/-- Causes with their numbers. -/
def numbered (causes : List String) : String :=
  String.join (causes.zipIdx.map fun c => "    " ++ Text.Decimal.text c.2 ++ ": " ++ c.1 ++ "\n")

/-- The causes of a failure below it; a single one has no number. -/
def causesText : List String → String
  | [] => ""
  | [cause] => "\nCaused by:\n    " ++ cause ++ "\n"
  | causes => "\nCaused by:\n" ++ numbered causes

/-- What is printed when the program fails. -/
def text (c : Complaint) : String :=
  let (message, causes) := c.texts
  "Error: " ++ message ++ "\n" ++ causesText causes

end Complaint

/-! ### Runs -/

/-- What a run of the program comes to. -/
structure Report where
  /-- The code with which it ends: zero, or one after a failure, or two after a wrong call. -/
  code : Nat
  printed : List String := []
  errors : String := ""
  files : FileStore
deriving DecidableEq, Repr

/-- The line that tells that a recording was verified. -/
def verifiedText (t : Tally) : String :=
  "replay verified: " ++ Text.Decimal.text t.commands ++ " commands, " ++
    Text.Decimal.text t.resets ++ " resets"

/-- The settings under which a session is run on a grid of the given side. -/
def settingsOf (side : UInt32) : Settings := { side := side }

/-- A recording is verified in a fresh session, at times that the clock tells. -/
def verify (source : Source) (clock : Nat → Nat) : Except Complaint String :=
  match Reader.ofSource source with
  | .error fault => .error (.recording fault)
  | .ok reader =>
    match Session.start (settingsOf reader.header.side) with
    | .error fault => .error (.recordedSettings fault)
    | .ok session =>
      let c := session.verify reader clock
      match c.result with
      | .error fault => .error (.recording fault)
      | .ok (some d) => .error (.divergence d)
      | .ok none => .ok (verifiedText c.state.tally)

/-- The line that tells the version. -/
def versionText : String := "gridbot " ++ programVersion

/-- The line that tells how to call the program. -/
def helpText : String :=
  "Usage: gridbot [--grid-size <GRID_SIZE>] [--record <PATH>] [--verify <PATH>]"

/-- A console for a session on a grid of the given side. -/
def open? (side : UInt32) (p : Provenance) (recorded : Bool) : Except Complaint Console :=
  match Session.start (settingsOf side) with
  | .error fault => .error (.settings fault)
  | .ok session => .ok (Console.start session p recorded)

/-- What a run comes to that fails before anything is printed or written. -/
def failure (complaint : Complaint) (files : FileStore) : Report :=
  { code := 1, errors := complaint.text, files := files }

/-- What the console at its end comes to; its recording, if there is one, is at the location. -/
def report (c : Console) (at? : Option Location) (files : FileStore) : Report :=
  let files := match at?, c.recording? with
    | some l, some bytes => files.insert l bytes
    | _, _ => files
  match c.fault with
  | none => { code := 0, printed := c.printed.toList, files := files }
  | some fault =>
    { code := 1, printed := c.printed.toList, errors := (Complaint.recording fault).text,
      files := files }

/-- The console reads all that is typed. -/
def work (c : Console) (at? : Option Location) (stdin : List UInt8) (clock : Nat → Nat)
    (files : FileStore) : Report :=
  ((c.readLines clock (linesOf stdin)).finish clock).report at? files

/-- A session is run on all that is typed. -/
def interact (side : UInt32) (path? : Option String) (p : Provenance) (stdin : List UInt8)
    (clock : Nat → Nat) (files : FileStore) : Report :=
  match Console.open? side p path?.isSome with
  | .error complaint => failure complaint files
  | .ok c =>
    match path? with
    | none => c.work none stdin clock files
    | some path =>
      match files.locate path with
      | .error fault => failure (.cannotCreate path fault.message) files
      | .ok l => c.work (some l) stdin clock files

/-- The recording at a path is verified.  A directory can be opened, but its first byte cannot be
read. -/
def verifyAt (path : String) (clock : Nat → Nat) (files : FileStore) : Report :=
  match files.open? path with
  | .error fault => failure (.cannotOpen path fault.message) files
  | .ok .directory => failure (.recording (.device (.refused PathFault.isDirectory.message))) files
  | .ok (.file bytes) =>
    match verify { pending := bytes } clock with
    | .ok line => { code := 0, printed := [line], files := files }
    | .error complaint => failure complaint files

/-- A run of the program. -/
def run (args : List String) (p : Provenance) (stdin : List UInt8) (clock : Nat → Nat)
    (files : FileStore) : Report :=
  match Invocation.ofArgs args with
  | .misuse => { code := 2, errors := helpText ++ "\n", files := files }
  | .version => { code := 0, printed := [versionText], files := files }
  | .help => { code := 0, printed := [helpText], files := files }
  | .interact side path? => interact side path? p stdin clock files
  | .verify path => verifyAt path clock files

end TorusRobot.Console
