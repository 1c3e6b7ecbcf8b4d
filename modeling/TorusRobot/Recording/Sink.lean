/-
**Sinks of bytes.**

A sink takes bytes as long as it has room.  A write that does not fit fills the room there is and
fails; what was written stays.

Main definitions:

* `TorusRobot.Recording.Sink` — what was written, and how much room there is;
* `TorusRobot.Recording.Sink.write`, `TorusRobot.Recording.Sink.flush` — writing and confirming.

Main results:

* `TorusRobot.Recording.Sink.write_unlimited` — a sink with room for everything takes everything.
-/
import TorusRobot.Recording.Transfer

set_option relaxedAutoImplicit false
set_option autoImplicit false

namespace TorusRobot.Recording

/-- Where bytes are written. -/
structure Sink where
  written : Array UInt8 := #[]
  /-- For how many more bytes there is room; `none` stands for any number. -/
  room : Option Nat := none
  /-- Whether the sink refuses to confirm what was written. -/
  flushFails : Bool := false
deriving DecidableEq, Repr

namespace Sink

/-- The bytes written so far, as a list. -/
def bytes (s : Sink) : List UInt8 := s.written.toList

/-- All of `bs` is written; if there is not enough room, as much of it as fits. -/
def write (bs : List UInt8) : Transfer Sink Unit := fun s =>
  match s.room with
  | none => (.ok (), { s with written := s.written ++ bs })
  | some n =>
    if bs.length ≤ n then
      (.ok (), { s with written := s.written ++ bs, room := some (n - bs.length) })
    else
      (.error (.device .full), { s with written := s.written ++ bs.take n, room := some 0 })

/-- A sink with room for everything takes everything. -/
theorem write_unlimited {s : Sink} (h : s.room = none) (bs : List UInt8) :
    write bs s = (.ok (), { s with written := s.written ++ bs }) := by
  simp [write, h]

/-- What was written is confirmed. -/
def flush : Transfer Sink Unit := fun s =>
  if s.flushFails then (.error (.device .flushFailed), s) else (.ok (), s)

end Sink

end TorusRobot.Recording
