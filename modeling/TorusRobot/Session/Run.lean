/-
**Runs of a session.**

Main definitions:

* `TorusRobot.Session.Operation` — one thing done in a session;
* `TorusRobot.Session.Answer` — what the session answers to it;
* `TorusRobot.Session.perform`, `TorusRobot.Session.run` — doing one thing, and several.
-/
import TorusRobot.Session.Basic

set_option relaxedAutoImplicit false
set_option autoImplicit false

namespace TorusRobot.Session

/-- One thing done in a session. -/
inductive Operation where
  | submit (line : String) (now : Nat)
  | reset (now : Nat)
  | dismiss (id : Nat)
  /-- Notices are taken away whose deadline has come. -/
  | expire (now : Nat)
deriving DecidableEq, Repr

/-- What the session answers to an operation. -/
inductive Answer where
  | outcome (o : Option Outcome)
  | resetNotice (id : Nat)
  | dismissed (removed : Bool)
  | expired (ids : List Nat)
deriving DecidableEq, Repr

/-- The session after an operation, and its answer. -/
def perform (s : Session) : Operation → Session × Answer
  | .submit line now =>
    let (next, o) := s.submit line now
    (next, .outcome o)
  | .reset now =>
    let (next, id) := s.reset now
    (next, .resetNotice id)
  | .dismiss id =>
    let (next, removed) := s.dismiss id
    (next, .dismissed removed)
  | .expire now =>
    let (next, ids) := s.expire now
    (next, .expired ids)

/-- The session after a list of operations. -/
def run (s : Session) (ops : List Operation) : Session :=
  ops.foldl (fun s op => (s.perform op).1) s

@[simp] theorem run_nil (s : Session) : s.run [] = s := rfl

@[simp] theorem run_cons (s : Session) (op : Operation) (ops : List Operation) :
    s.run (op :: ops) = (s.perform op).1.run ops := rfl

theorem run_append (s : Session) (ops ops' : List Operation) :
    s.run (ops ++ ops') = (s.run ops).run ops' := by
  simp [run]

end TorusRobot.Session
