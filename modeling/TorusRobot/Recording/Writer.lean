/-
**Writing a recording.**

A writer has written the header and adds frames, which it numbers from one.  A frame counts only
when all of it was written.

Main definitions:

* `TorusRobot.Recording.Writer` — a recording that is being written;
* `TorusRobot.Recording.Writer.start` — writing the header;
* `TorusRobot.Recording.Writer.writeFrame`, `TorusRobot.Recording.Writer.record`,
  `TorusRobot.Recording.Writer.flush` — adding frames, and confirming them;
* `TorusRobot.Recording.Header.ofSettings` — the header of a recording under given settings.
-/
import TorusRobot.Recording.Digest
import TorusRobot.Recording.Format

set_option relaxedAutoImplicit false
set_option autoImplicit false

namespace TorusRobot.Recording

/-- The header of a recording that is made under the given settings. -/
def Header.ofSettings (p : Provenance) (s : Settings) : Header := ⟨p, s.side, s.digest⟩

/-- A recording that is being written. -/
structure Writer where
  sink : Sink
  framesWritten : Nat := 0
deriving DecidableEq, Repr

namespace Writer

/-- The header is written; the writer can be used if that succeeds. -/
def start (h : Header) (s : Sink) : Except Fault Unit × Writer :=
  let (result, s) := Sink.writeHeader h s
  (result, { sink := s })

/-- A frame is written as it is. -/
def writeFrame (f : Frame) : Transfer Writer Unit := fun w =>
  match Sink.writeFrame f w.sink with
  | (.ok (), s) => (.ok (), { sink := s, framesWritten := w.framesWritten + 1 })
  | (.error fault, s) => (.error fault, { w with sink := s })

/-- An action is recorded with the digest of the world after it. -/
def record (action : Action) (world : World) : Transfer Writer Unit := fun w =>
  writeFrame ⟨UInt64.ofNat (w.framesWritten + 1), action, world.digest⟩ w

/-- What was written is confirmed. -/
def flush : Transfer Writer Unit := fun w =>
  let (result, s) := Sink.flush w.sink
  (result, { w with sink := s })

end Writer

end TorusRobot.Recording
