/-
**Digests.**

A digest is the 64-bit FNV-1a hash of bytes.  The digest of a world is that of the bytes that
describe it: the side, the robot, the walls in order and the last report.  What the last command
left behind for display is no part of it.  The digest of settings covers what can change a world:
the side and the treatment of upper and lower case.

Main definitions:

* `TorusRobot.fnv1a` — the hash of bytes;
* `TorusRobot.World.description`, `TorusRobot.World.digest` — the bytes and the digest of a world;
* `TorusRobot.Settings.description`, `TorusRobot.Settings.digest` — those of settings.

Main results:

* `TorusRobot.fnv1a_append_singleton` — a hash grows byte by byte;
* `TorusRobot.World.digest_stamped` — stamps do not change the digest;
* `TorusRobot.Settings.digest_congr` — settings for display do not change the digest.
-/
import TorusRobot.Recording.LittleEndian
import TorusRobot.Session.Settings
import TorusRobot.Text.Utf8
import TorusRobot.World.Basic

set_option relaxedAutoImplicit false
set_option autoImplicit false

namespace TorusRobot

/-! ### The hash -/

/-- The hash of no bytes. -/
def fnvOffset : UInt64 := 0xCBF29CE484222325

/-- The factor by which each byte multiplies the hash. -/
def fnvPrime : UInt64 := 0x100000001B3

/-- The hash after one more byte: the byte is mixed in, then the hash is multiplied. -/
def fnvStep (h : UInt64) (b : UInt8) : UInt64 := (h ^^^ b.toUInt64) * fnvPrime

/-- The FNV-1a hash of bytes. -/
def fnv1a (bs : List UInt8) : UInt64 := bs.foldl fnvStep fnvOffset

theorem fnv1a_append_singleton (bs : List UInt8) (b : UInt8) :
    fnv1a (bs ++ [b]) = fnvStep (fnv1a bs) b := by
  simp [fnv1a]

/-! ### Descriptions -/

/-- The bytes of a position. -/
def Position.bytes (p : Position) : List UInt8 :=
  LittleEndian.word32 p.row ++ LittleEndian.word32 p.col

/-- The bytes of a robot, or of the lack of one. -/
def Robot.bytes? : Option Robot → List UInt8
  | some r => 1 :: (r.position.bytes ++ [UInt8.ofNat r.facing.index.val])
  | none => [0]

/-- The bytes of a report, or of the lack of one. -/
def reportBytes? : Option String → List UInt8
  | some report =>
    let text := Text.Utf8.encode report
    1 :: (LittleEndian.encode 4 text.length ++ text)
  | none => [0]

namespace World

/-- The bytes of the walls, their number first. -/
def wallBytes (walls : List Position) : List UInt8 :=
  LittleEndian.encode 4 walls.length ++ walls.flatMap Position.bytes

/-- The bytes that describe a world. -/
def description (w : World) : List UInt8 :=
  LittleEndian.word32 w.side ++ Robot.bytes? w.robot ++ wallBytes w.walls ++
    reportBytes? w.lastReport

/-- The digest of a world. -/
def digest (w : World) : UInt64 := fnv1a w.description

/-- A stamp does not change the digest. -/
@[simp] theorem digest_stamped (w : World) (verb : String) (status : Status) (message : String) :
    (w.stamped verb status message).digest = w.digest := rfl

end World

/-- The byte that stands for a treatment of upper and lower case. -/
def CasePolicy.tag : CasePolicy → UInt8
  | .uppercase => 0
  | .exact => 1

namespace Settings

/-- The bytes that describe what settings can change in a world. -/
def description (s : Settings) : List UInt8 := LittleEndian.word32 s.side ++ [s.casePolicy.tag]

/-- The digest of settings. -/
def digest (s : Settings) : UInt64 := fnv1a s.description

/-- Side and treatment of upper and lower case are all that the digest covers. -/
theorem digest_congr {s t : Settings} (hside : s.side = t.side)
    (hcase : s.casePolicy = t.casePolicy) : s.digest = t.digest := by
  simp only [digest, description, hside, hcase]

end Settings

end TorusRobot
