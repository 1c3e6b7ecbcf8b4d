/-
**What the worker does.**

A worker owns a session and handles one request at a time.  After every request, and whenever it
wakes up without one, it takes away the notices whose deadline has come.

Main definitions:

* `TorusRobot.Request`, `TorusRobot.Event` — what callers ask for, and what they are told;
* `TorusRobot.Session.handle` — one request;
* `TorusRobot.Session.turn` — one turn of the worker.

Main results:

* `TorusRobot.Session.turn_none` — a turn without a request only takes notices away.
-/
import TorusRobot.Session.Basic

set_option relaxedAutoImplicit false
set_option autoImplicit false

namespace TorusRobot

/-- What a caller asks for. -/
inductive Request where
  | submit (line : String)
  | reset
  | dismiss (id : Nat)
deriving DecidableEq, Repr

/-- What has happened. -/
inductive Event where
  /-- A line was carried out; the notice of its outcome, if any, has the given number. -/
  | applied (line : String) (outcome : Outcome) (world : World) (notice : Option Nat)
  | reset (notice : Nat)
  /-- A notice was to be taken away; the flag tells whether it was on show. -/
  | dismissed (id : Nat) (removed : Bool)
  | expired (ids : List Nat)
deriving DecidableEq, Repr

namespace Session

/-- The number of the notice that an outcome has just put in the tray. -/
def noticeId? (s : Session) (o : Outcome) : Option Nat :=
  match o.notice with
  | some _ => s.tray.newest?.map Tray.Entry.id
  | none => none

/-- A request is handled.  A blank line gives no event, every other request gives one. -/
def handle (s : Session) (r : Request) (now : Nat) : Session × Option Event :=
  match r with
  | .submit line =>
    match s.submit line now with
    | (s, none) => (s, none)
    | (s, some outcome) => (s, some (.applied line outcome s.world (s.noticeId? outcome)))
  | .reset =>
    let (s, id) := s.reset now
    (s, some (.reset id))
  | .dismiss id =>
    let (s, removed) := s.dismiss id
    (s, some (.dismissed id removed))

/-- The event of notices whose deadline came; there is none without such notices. -/
def expiry? (ids : List Nat) : Option Event := if ids.isEmpty then none else some (.expired ids)

/-- One turn of the worker: the request, if there is one, and then the notices whose deadline has
come. -/
def turn (s : Session) (r : Option Request) (now : Nat) : Session × List Event :=
  let (s, event?) := match r with
    | some r => s.handle r now
    | none => (s, none)
  let (s, ids) := s.expire now
  (s, event?.toList ++ (expiry? ids).toList)

/-- A turn without a request only takes notices away. -/
theorem turn_none (s : Session) (now : Nat) :
    s.turn none now = ((s.expire now).1, (expiry? (s.expire now).2).toList) := rfl

end Session

end TorusRobot
