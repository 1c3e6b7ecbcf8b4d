/-
**What can be wrong with a recording.**

Main definitions:

* `TorusRobot.Recording.DeviceFault` — faults of the device that holds the bytes;
* `TorusRobot.Recording.Malformation` — ways in which bytes are no frame;
* `TorusRobot.Recording.Fault` — all faults, with their wording.
-/
import TorusRobot.Text.Hex
import TorusRobot.Text.Utf8

set_option relaxedAutoImplicit false
set_option autoImplicit false

namespace TorusRobot.Recording

/-! ### Devices -/

/-- A fault of the device that holds the bytes. -/
inductive DeviceFault where
  | endOfInput
  | full
  | failed
  | flushFailed
  /-- The system refuses, in words of its own. -/
  | refused (reason : String)
deriving DecidableEq, Repr

/-- The wording of a fault of the device. -/
def DeviceFault.message : DeviceFault → String
  | endOfInput => "failed to fill whole buffer"
  | full => "failed to write whole buffer"
  | failed => "device failed"
  | flushFailed => "flush failed"
  | refused reason => reason

/-! ### Frames -/

/-- The greatest number of bytes of a text in a recording. -/
def textLimit : Nat := 65536

/-- A way in which bytes are no frame, or a text is none that a frame can hold. -/
inductive Malformation where
  /-- The bytes end inside the sequence number, of which there are `got` bytes. -/
  | truncatedSeq (got : Nat)
  | unknownTag (tag : UInt8)
  | textTooLong (length : Nat)
  | notText (fault : Text.Utf8.Fault)
  /-- A way that is told in words. -/
  | told (detail : String)
deriving DecidableEq, Repr

/-- The wording of a malformation. -/
def Malformation.message : Malformation → String
  | truncatedSeq got =>
    "truncated frame header: got " ++ Text.Decimal.text got ++ " of 8 bytes for seq"
  | unknownTag tag => "unknown frame op tag " ++ Text.Decimal.text tag.toNat
  | textTooLong length =>
    "string length " ++ Text.Decimal.text length ++ " exceeds limit " ++
      Text.Decimal.text textLimit
  | notText fault => "invalid UTF-8 string: " ++ fault.message
  | told detail => detail

/-! ### All faults -/

/-- What can be wrong with a recording. -/
inductive Fault where
  | device (fault : DeviceFault)
  | badMagic
  | unsupportedVersion (found : UInt8)
  | malformed (why : Malformation)
  | unknownStatusTag (tag : UInt8)
  /-- The recording was made under settings that differ in what can change a world. -/
  | settingsMismatch (recorded current : UInt64)
deriving DecidableEq, Repr

/-- A digest as it is shown in messages. -/
def digestText (d : UInt64) : String := "0x" ++ Text.Hex.word d

/-- The wording of a fault. -/
def Fault.message : Fault → String
  | device fault => "I/O error: " ++ fault.message
  | badMagic => "invalid magic bytes (expected b\"GBOT\")"
  | unsupportedVersion found => "unsupported format version " ++ Text.Decimal.text found.toNat
  | malformed why => "malformed frame: " ++ why.message
  | unknownStatusTag tag => "unknown status tag " ++ Text.Decimal.text tag.toNat
  | settingsMismatch recorded current =>
    "config hash mismatch: recorded=" ++ digestText recorded ++ ", current=" ++
      digestText current

/-- The wording of the fault behind a fault. -/
def Fault.cause? : Fault → Option String
  | device fault => some fault.message
  | _ => none

end TorusRobot.Recording
