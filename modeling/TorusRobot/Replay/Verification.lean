/-
**Verifying a recording in a session.**

A recording is verified by doing its actions again in a session.  The settings of the session must
be those of the recording as far as they can change a world.

Main definitions:

* `TorusRobot.Session.redo` — doing an action again;
* `TorusRobot.Session.verify` — verifying a recording.

Main results:

* `TorusRobot.Session.verify_of_mismatch` — with other settings no frame is read and nothing
  changes.
-/
import TorusRobot.Recording.Digest
import TorusRobot.Replay.Comparison
import TorusRobot.Session.Basic

set_option relaxedAutoImplicit false
set_option autoImplicit false

namespace TorusRobot.Session

open Recording Replay

/-- A recorded action is done again at time `now`. -/
def redo (s : Session) (action : Action) (now : Nat) : Redone × Session :=
  match action with
  | .command line _ =>
    let (s, outcome) := s.submit line now
    (⟨outcome.map Outcome.status, s.world.digest⟩, s)
  | .reset =>
    let (s, _) := s.reset now
    (⟨none, s.world.digest⟩, s)

/-- Whether a recording was made under settings that give the same worlds. -/
def accepts (s : Session) (h : Header) : Bool :=
  h.settingsDigest = s.settings.digest && h.side = s.settings.side

/-- The recorded actions are done again in the session; the clock says at what time each one is
done.  The reader and the session afterwards are told along with the result. -/
def verify (s : Session) (r : Reader) (clock : Nat → Nat) : Comparison Session :=
  if s.accepts r.header then
    let c := Replay.compare
      (fun (state : Session × Nat) action =>
        let (redone, s) := state.1.redo action (clock state.2)
        (.ok redone, (s, state.2 + 1)))
      r (s, 0)
    ⟨c.result, c.reader, c.state.1⟩
  else ⟨.error (.settingsMismatch r.header.settingsDigest s.settings.digest), r, s⟩

/-- With other settings no frame is read and no action is done. -/
theorem verify_of_mismatch {s : Session} {r : Reader} (clock : Nat → Nat)
    (h : s.accepts r.header = false) :
    s.verify r clock =
      ⟨.error (.settingsMismatch r.header.settingsDigest s.settings.digest), r, s⟩ := by
  simp [verify, h]

end TorusRobot.Session
