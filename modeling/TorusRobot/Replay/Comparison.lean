/-
**Comparing a recording with doing it again.**

The actions of a recording are done again one by one.  The comparison ends at the first frame whose
status or digest differs from what doing it again gives; a differing status is reported before a
differing digest.

Main definitions:

* `TorusRobot.Replay.Redone` — what doing an action again gives;
* `TorusRobot.Replay.Divergence` — where a recording and doing it again part;
* `TorusRobot.Replay.divergence?` — how one frame differs;
* `TorusRobot.Replay.compare` — the first divergence of a recording.

Main results:

* `TorusRobot.Replay.divergence?_eq_none_iff` — when a frame does not differ.
-/
import TorusRobot.Recording.Reader

set_option relaxedAutoImplicit false
set_option autoImplicit false

namespace TorusRobot.Replay

open Recording

/-- What doing an action again gives. -/
structure Redone where
  status : Option Status
  digest : UInt64
deriving DecidableEq, Repr

/-- How a frame differs from doing it again. -/
inductive Difference where
  | status (recorded : Status) (redone : Option Status)
  | digest (recorded redone : UInt64)
deriving DecidableEq, Repr

/-- Where a recording and doing it again part. -/
structure Divergence where
  seq : UInt64
  difference : Difference
deriving DecidableEq, Repr

/-- The wording of a divergence. -/
def Divergence.message (d : Divergence) : String :=
  "divergence at frame " ++ Text.Decimal.text d.seq.toNat ++ ": " ++
    match d.difference with
    | .status recorded redone =>
      "recorded " ++ recorded.name ++ ", replayed " ++
        match redone with
        | some s => s.name
        | none => "no outcome"
    | .digest recorded redone =>
      "state hash recorded=" ++ digestText recorded ++ ", replayed=" ++ digestText redone

/-! ### One frame -/

/-- How the status of a recorded action differs; a reset has none that could differ. -/
def statusDifference? (action : Action) (redone : Option Status) : Option Difference :=
  match action with
  | .command _ recorded =>
    if redone = some recorded then none else some (.status recorded redone)
  | .reset => none

/-- How a frame differs from doing it again, if it does. -/
def difference? (f : Frame) (r : Redone) : Option Difference :=
  match statusDifference? f.action r.status with
  | some d => some d
  | none => if r.digest = f.digest then none else some (.digest f.digest r.digest)

/-- The divergence at a frame, if there is one. -/
def divergence? (f : Frame) (r : Redone) : Option Divergence :=
  (difference? f r).map fun d => ⟨f.seq, d⟩

/-- A frame does not differ when the status of its command and its digest are the same. -/
theorem divergence?_eq_none_iff {f : Frame} {r : Redone} :
    divergence? f r = none ↔
      (∀ line status, f.action = .command line status → r.status = some status) ∧
        r.digest = f.digest := by
  unfold divergence? difference? statusDifference?
  cases h : f.action with
  | reset => simp
  | command line status =>
      by_cases hs : r.status = some status <;> simp [hs]

/-! ### A whole recording -/

/-- The result of a comparison: a divergence or none or a fault, the reader behind the last frame
that was read, and the state in which doing again has ended. -/
structure Comparison (σ : Type) where
  /-- The first divergence, if there is one and no fault came before it. -/
  result : Except Fault (Option Divergence)
  /-- The reader behind the last frame that was read. -/
  reader : Reader
  /-- The state in which doing again has ended. -/
  state : σ

/-- The actions of a recording are done again by `redo` until a frame differs, a fault comes or the
recording ends. -/
def compare {σ : Type} (redo : σ → Action → Except Fault Redone × σ) (r : Reader) (s : σ) :
    Comparison σ :=
  match _h : r.next with
  | (.error fault, r') => ⟨.error fault, r', s⟩
  | (.ok none, r') => ⟨.ok none, r', s⟩
  | (.ok (some frame), r') =>
    match redo s frame.action with
    | (.error fault, s') => ⟨.error fault, r', s'⟩
    | (.ok redone, s') =>
      match divergence? frame redone with
      | some d => ⟨.ok (some d), r', s'⟩
      | none => compare redo r' s'
termination_by r.source.pending.length
decreasing_by exact Reader.length_next_lt _h

end TorusRobot.Replay
