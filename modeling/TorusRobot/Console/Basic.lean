/-
**The console at work.**

The console reads lines, passes requests on to a dispatcher, prints what it is told and records it
if it is asked to.  When the queue is full it handles an event before it tries again, so that the
worker and the console never wait for each other.

Every step is a function of its own: a line is read, the waiting request is offered, the worker
wakes up, an event is handled.  `Console.turn` puts them together for one line.

Main definitions:

* `TorusRobot.Console` — the dispatcher, the recording, what was printed;
* `TorusRobot.Console.readLine`, `TorusRobot.Console.offer`, `TorusRobot.Console.wake`,
  `TorusRobot.Console.handleEvent` — the steps;
* `TorusRobot.Console.turn`, `TorusRobot.Console.finish` — one line, and the end.
-/
import TorusRobot.Console.Control
import TorusRobot.Console.Display
import TorusRobot.Dispatch.Dispatcher
import TorusRobot.Recording.Writer

set_option relaxedAutoImplicit false
set_option autoImplicit false

namespace TorusRobot

open Recording

/-- The console at work. -/
structure Console where
  dispatcher : Dispatcher
  recorder : Option Writer := none
  /-- The request of the line that was read last, as long as it was not accepted. -/
  waiting : Option Request := none
  reading : Bool := true
  printed : Array String := #[]
  /-- What went wrong with the recording; nothing is done after that. -/
  fault : Option Fault := none
deriving DecidableEq, Repr

namespace Console

/-! ### Events -/

/-- What an event adds to a recording made under the given settings.  After a reset the world is
empty. -/
def record (settings : Settings) (e : Event) : Transfer Writer Unit :=
  match e with
  | .applied line outcome world _ => Writer.record (.command line outcome.status) world
  | .reset _ => Writer.record .reset { side := settings.side }
  | .dismissed _ _ | .expired _ => pure ()

/-- Lines are printed. -/
def print (c : Console) (lines : List String) : Console :=
  { c with printed := c.printed ++ lines }

/-- An event is printed, and then recorded. -/
def handleEvent (c : Console) (e : Event) : Console :=
  if c.fault.isSome then c
  else
    let c := c.print e.lines
    match c.recorder with
    | none => c
    | some w =>
      match record c.dispatcher.session.settings e w with
      | (.ok (), w) => { c with recorder := some w }
      | (.error fault, w) => { c with recorder := some w, fault := some fault }

/-- The oldest event is taken and handled, if there is one. -/
def takeEvent (c : Console) : Console :=
  match c.dispatcher.take? with
  | none => c
  | some (e, d) => { c with dispatcher := d }.handleEvent e

/-- All events that wait are handled. -/
def takeEvents (c : Console) : Console :=
  c.dispatcher.events.foldl handleEvent
    { c with dispatcher := { c.dispatcher with events := [] } }

/-! ### Lines -/

/-- A line is read.  Nothing is read while a request waits, nor after the end. -/
def readLine (c : Console) (line : String) : Console :=
  if c.reading && c.waiting.isNone && c.fault.isNone then
    match Input.ofLine line with
    | .request r => { c with waiting := some r }
    | .skip => c
    | .quit => { c with reading := false }
    | .rejected reason => c.print [reason]
  else c

/-- The waiting request is offered to the dispatcher.  If the queue is full, an event is handled
instead. -/
def offer (c : Console) : Console :=
  match c.waiting with
  | none => c
  | some r =>
    if c.fault.isSome then c
    else
      match c.dispatcher.send r with
      | (.ok (), d) => { c with dispatcher := d, waiting := none }
      -- The request goes on waiting and is offered again.
      | (.error .full, _) => c.takeEvent
      | (.error .closed, _) => { c with reading := false, waiting := none }

/-- The worker wakes up at time `now`. -/
def wake (c : Console) (now : Nat) : Console := { c with dispatcher := c.dispatcher.wake now }

/-- A line is read at time `now`, and all that it brings about is done.  Nothing is done after the
end. -/
def turn (c : Console) (line : String) (now : Nat) : Console :=
  if c.reading then (((c.readLine line).offer).wake now).takeEvents else c

/-! ### The end -/

/-- What was recorded is confirmed, unless something went wrong before. -/
def confirm (c : Console) : Console :=
  match c.fault, c.recorder with
  | none, some w =>
    match w.flush with
    | (.ok (), w) => { c with recorder := some w }
    | (.error fault, w) => { c with recorder := some w, fault := some fault }
  | _, _ => c

/-- The input has ended.  The dispatcher is closed, and what is left is handled and confirmed. -/
def finish (c : Console) (clock : Nat → Nat) : Console :=
  ({ c with reading := false, dispatcher := c.dispatcher.finish clock }.takeEvents).confirm

/-- All lines are read, at times that the clock tells. -/
def readLines (c : Console) (clock : Nat → Nat) (lines : List String) : Console :=
  lines.zipIdx.foldl (fun c line => c.turn line.1 (clock line.2)) c

/-- The bytes of the recording, if there is one. -/
def recording? (c : Console) : Option (List UInt8) :=
  match c.recorder with
  | some w => some w.sink.bytes
  | none => none

/-- A console for a fresh session, whose recording has started if there is to be one. -/
def start (s : Session) (p : Provenance) (recorded : Bool) : Console :=
  let c : Console := { dispatcher := Dispatcher.ofSession s Dispatcher.defaultCapacity }
  if recorded then
    match Writer.start (Header.ofSettings p s.settings) {} with
    | (.ok (), w) => { c with recorder := some w }
    | (.error fault, w) => { c with recorder := some w, fault := some fault }
  else c

end Console

end TorusRobot
