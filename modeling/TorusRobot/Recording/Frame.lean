/-
**What a recording holds.**

A recording is a header and frames.  The header says what made the recording and under which
settings; a frame holds one action and the digest of the world after it.

Main definitions:

* `TorusRobot.Recording.Provenance` — what made a recording;
* `TorusRobot.Recording.Header` — the header;
* `TorusRobot.Recording.Action`, `TorusRobot.Recording.Frame` — actions and frames.
-/
import TorusRobot.Outcome.Status

set_option relaxedAutoImplicit false
set_option autoImplicit false

namespace TorusRobot.Recording

/-- What made a recording. -/
structure Provenance where
  /-- The version of the language that the program was written for. -/
  language : String
  /-- The machine and the system on which it ran. -/
  platform : String
  program : String
  build : String
deriving DecidableEq, Repr

/-- The version of this program. -/
def programVersion : String := "0.1.0"

/-- The language version that this program states in its recordings. -/
def languageVersion : String := "1.87"

/-- What this program says of itself, on a given platform and in a given build. -/
def Provenance.current (platform build : String) : Provenance :=
  ⟨languageVersion, platform, programVersion, build⟩

/-- The header of a recording. -/
structure Header where
  provenance : Provenance
  side : UInt32
  settingsDigest : UInt64
deriving DecidableEq, Repr

/-- What was done. -/
inductive Action where
  /-- A line was submitted, and its command went as the status says. -/
  | command (line : String) (status : Status)
  | reset
deriving DecidableEq, Repr

/-- One step of a recording. -/
structure Frame where
  seq : UInt64
  action : Action
  digest : UInt64
deriving DecidableEq, Repr

end TorusRobot.Recording
