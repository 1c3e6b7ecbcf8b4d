/-
**The program.**

The outer layer: arguments, standard input, standard output and files.  What is to be done is
decided by `TorusRobot.Console`.
-/
import TorusRobot.Console.Program

set_option relaxedAutoImplicit false
set_option autoImplicit false

namespace TorusRobot.Main

open Console Recording

/-- What this program says of itself in its recordings. -/
def provenance : Provenance := Provenance.current "x86_64-linux" "release"

/-- The reason for which the system refuses a file. -/
def reasonOf (e : IO.Error) : String :=
  match e with
  | .noFileOrDirectory _ _ _ => PathFault.missing.message
  | .inappropriateType _ code _ =>
    if code = 20 then PathFault.notDirectory.message else PathFault.isDirectory.message
  | .invalidArgument _ 36 _ => PathFault.tooLong.message
  | e => toString e

/-- The failure is explained, and the code for it is given. -/
def complain (c : Complaint) : IO UInt32 := do
  (← IO.getStderr).putStr c.text
  return 1

/-- What the console has printed since `seen` lines were written, and what it has recorded since
`saved` bytes were saved, is passed on. -/
def passOn (file : Option IO.FS.Handle) (c : Console) (seen saved : Nat) : IO (Nat × Nat) := do
  for line in c.printed.toList.drop seen do
    IO.println line
  (← IO.getStdout).flush
  let bytes := (c.recording?.getD []).drop saved
  if let some h := file then
    h.write ⟨bytes.toArray⟩
    h.flush
  return (c.printed.size, saved + bytes.length)

/-- Lines are handed to the console one by one as they are typed. -/
partial def loop (file : Option IO.FS.Handle) (c : Console) (rest : List UInt8) (seen saved : Nat) :
    IO UInt32 := do
  let chunk ← (← IO.getStdin).read 4096
  let (lines, rest) := cutLines (rest ++ chunk.data.toList)
  let ended := chunk.isEmpty
  let lines := if ended then lines ++ lastLine rest else lines
  let mut c := c
  let mut seen := seen
  let mut saved := saved
  for line in lines.filterMap lineText? do
    c := c.turn line (← IO.monoMsNow)
    (seen, saved) ← passOn file c seen saved
  if ended || !c.reading || c.fault.isSome then
    let now ← IO.monoMsNow
    c := c.finish fun _ => now
    discard (passOn file c seen saved)
    match c.fault with
    | some fault => complain (.recording fault)
    | none => return 0
  else loop file c rest seen saved

/-- A session is run. -/
def interactWith (side : UInt32) (path? : Option String) : IO UInt32 := do
  match Console.open? side provenance path?.isSome with
  | .error complaint => complain complaint
  | .ok c =>
    match path? with
    | none => loop none c [] 0 0
    | some path =>
      match ← (IO.FS.Handle.mk path .write).toBaseIO with
      | .error e => complain (.cannotCreate path (reasonOf e))
      | .ok h => loop (some h) c [] 0 0

/-- A recording is verified. -/
def verifyFile (path : String) : IO UInt32 := do
  match ← (IO.FS.Handle.mk path .read).toBaseIO with
  | .error e => complain (.cannotOpen path (reasonOf e))
  | .ok h =>
    match ← h.readBinToEnd.toBaseIO with
    | .error e => complain (.recording (.device (.refused (reasonOf e))))
    | .ok bytes =>
      let now ← IO.monoMsNow
      match Console.verify { pending := bytes.data.toList } fun _ => now with
      | .ok line =>
        IO.println line
        return 0
      | .error complaint => complain complaint

end TorusRobot.Main

open TorusRobot Console

/-- The program is run. -/
def main (args : List String) : IO UInt32 := do
  match Invocation.ofArgs args with
  | .misuse =>
    IO.eprintln helpText
    return 2
  | .version =>
    IO.println versionText
    return 0
  | .help =>
    IO.println helpText
    return 0
  | .interact side path? => Main.interactWith side path?
  | .verify path => Main.verifyFile path
