/-
**Recording a session while it runs.**

Every line that has an outcome and every reset is recorded, with the digest of the world after it.

Main definitions:

* `TorusRobot.Replay.Capture` — a session and the writer of its recording;
* `TorusRobot.Replay.Capture.submit`, `TorusRobot.Replay.Capture.reset` — doing something in the
  session and recording it.
-/
import TorusRobot.Recording.Writer
import TorusRobot.Session.Basic

set_option relaxedAutoImplicit false
set_option autoImplicit false

namespace TorusRobot.Replay

open Recording

/-- A session and the writer of its recording. -/
structure Capture where
  session : Session
  writer : Writer
deriving DecidableEq, Repr

namespace Capture

/-- The recording of a session starts. -/
def start (session : Session) (p : Provenance) (sink : Sink) : Except Fault Unit × Capture :=
  let (result, writer) := Writer.start (Header.ofSettings p session.settings) sink
  (result, ⟨session, writer⟩)

/-- A line is submitted, and recorded if it has an outcome. -/
def submit (line : String) (now : Nat) : Transfer Capture Unit := fun c =>
  match c.session.submit line now with
  | (session, none) => (.ok (), { c with session := session })
  | (session, some outcome) =>
    let (result, writer) :=
      Writer.record (.command line outcome.status) session.world c.writer
    (result, ⟨session, writer⟩)

/-- The session is reset, and the reset is recorded. -/
def reset (now : Nat) : Transfer Capture Unit := fun c =>
  let (session, _) := c.session.reset now
  let (result, writer) := Writer.record .reset session.world c.writer
  (result, ⟨session, writer⟩)

/-- What was recorded is confirmed. -/
def flush : Transfer Capture Unit := fun c =>
  let (result, writer) := Writer.flush c.writer
  (result, { c with writer := writer })

end Capture

end TorusRobot.Replay
