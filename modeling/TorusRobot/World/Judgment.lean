/-
**Carrying out commands.**

A command is judged in a world: the judgment is a verdict and the world after it.  Applying a
command is judging it, stamping the world with the verdict and putting the verdict into words; the
empty command does nothing and has no outcome.

Main definitions:

* `TorusRobot.World.judge` — the verdict on a command, and the world after it;
* `TorusRobot.World.apply` — the outcome of a command, and the world after it;
* `TorusRobot.World.applyAll`, `TorusRobot.World.outcomes` — the same for a list of commands.

Main results:

* `TorusRobot.World.judge_of_status_ne_ok` — a command that fails leaves the world as it was;
* `TorusRobot.World.apply_of_isEmpty` — the empty command does nothing;
* `TorusRobot.World.status_applyAll` — the stamp has the status of the last outcome.
-/
import TorusRobot.Command.Line
import TorusRobot.Command.Verdict
import TorusRobot.World.Basic

set_option relaxedAutoImplicit false
set_option autoImplicit false

namespace TorusRobot.World

/-! ### Placing -/

/-- The axis value that a token stands for. -/
def axisToken? (token : String) : Option Int64 := Text.Decimal.axisValue? token.toList

/-- The cell that two tokens name. -/
def cellOf? (w : World) (row col : String) : Option Position :=
  match axisToken? row, axisToken? col with
  | some r, some c => Position.checked r c w.side
  | _, _ => none

/-- The robot that three tokens name. -/
def robotOf? (w : World) (row col facing : String) : Option Robot :=
  match w.cellOf? row col, Facing.ofName facing with
  | some p, .ok f => some ⟨p, f⟩
  | _, _ => none

/-- The verdict on a refused placement. -/
def PlacementFault.verdict (v : Verb) : PlacementFault → Verdict
  | outOfBounds _ _ _ => .badPlacement v
  | robotOnWall p => .robotOnWall p
  | wallOnRobot p => .wallOnRobot p
  | wallExists p => .wallExists p

/-- The verdict on a request to place the robot. -/
def judgeRobot (w : World) : List String → Verdict × World
  | [row, col, facing] =>
    match w.robotOf? row col facing with
    | none => (.badPlacement .placeRobot, w)
    | some r =>
      match w.placeRobot r with
      | .ok next => (.robotPlaced r, next)
      | .error fault => (fault.verdict .placeRobot, w)
  | _ => (.badPlacement .placeRobot, w)

/-- The verdict on a request to place a wall. -/
def judgeWall (w : World) : List String → Verdict × World
  | [row, col] =>
    match w.cellOf? row col with
    | none => (.badPlacement .placeWall, w)
    | some p =>
      match w.placeWall p with
      | .ok next => (.wallPlaced p, next)
      | .error fault => (fault.verdict .placeWall, w)
  | _ => (.badPlacement .placeWall, w)

/-! ### Acting -/

/-- The verdict on a refused motion. -/
def MotionFault.verdict : MotionFault → Verdict
  | notPlaced => .notPlaced
  | blocked p => .blocked p

/-- The verdict on a request to move. -/
def judgeMove (w : World) : Verdict × World :=
  match w.advance with
  | .ok (next, r) => (.moved r.position, next)
  | .error fault => (fault.verdict, w)

/-- The verdict on a request to turn. -/
def judgeTurn (w : World) (t : Turn) : Verdict × World :=
  match w.turn t with
  | .ok (next, r) => (.turned r.facing, next)
  | .error fault => (fault.verdict, w)

/-- The verdict on a request to report. -/
def judgeReport (w : World) : Verdict × World :=
  match w.report with
  | .ok (next, report) => (.reported report, next)
  | .error fault => (fault.verdict, w)

/-- The verdict on a command, and the world after it.  Arguments count for placements only. -/
def judge (w : World) (c : Command) : Verdict × World :=
  match Verb.ofName? c.verb with
  | some .placeRobot => w.judgeRobot c.args
  | some .placeWall => w.judgeWall c.args
  | some .move => w.judgeMove
  | some .left => w.judgeTurn .left
  | some .right => w.judgeTurn .right
  | some .report => w.judgeReport
  | none => (.unknown c.verb, w)

/-! ### Failing -/

theorem PlacementFault.status_verdict (v : Verb) (fault : PlacementFault) :
    (fault.verdict v).status = .invalid := by
  cases fault <;> rfl

/-- The robot that could not be placed has changed nothing. -/
theorem judgeRobot_of_status_ne_ok {w : World} {args : List String}
    (h : (w.judgeRobot args).1.status ≠ .ok) : (w.judgeRobot args).2 = w := by
  fun_cases judgeRobot w args with
  | case1 row col facing hr => rfl
  | case2 row col facing r hr next hw =>
      exact absurd (by simp [judgeRobot, hr, hw, Verdict.status]) h
  | case3 row col facing r hr fault hw => rfl
  | case4 args hargs => rfl

/-- The wall that could not be placed has changed nothing. -/
theorem judgeWall_of_status_ne_ok {w : World} {args : List String}
    (h : (w.judgeWall args).1.status ≠ .ok) : (w.judgeWall args).2 = w := by
  fun_cases judgeWall w args with
  | case1 row col hp => rfl
  | case2 row col p hp next hw => exact absurd (by simp [judgeWall, hp, hw, Verdict.status]) h
  | case3 row col p hp fault hw => rfl
  | case4 args hargs => rfl

/-- The robot that could not move has changed nothing. -/
theorem judgeMove_of_status_ne_ok {w : World} (h : w.judgeMove.1.status ≠ .ok) :
    w.judgeMove.2 = w := by
  cases hw : w.advance with
  | ok x => simp [judgeMove, hw, Verdict.status] at h
  | error fault => simp [judgeMove, hw]

/-- The robot that could not turn has changed nothing. -/
theorem judgeTurn_of_status_ne_ok {w : World} {t : Turn} (h : (w.judgeTurn t).1.status ≠ .ok) :
    (w.judgeTurn t).2 = w := by
  cases hw : w.turn t with
  | ok x => simp [judgeTurn, hw, Verdict.status] at h
  | error fault => simp [judgeTurn, hw]

/-- The robot that could not report has changed nothing. -/
theorem judgeReport_of_status_ne_ok {w : World} (h : w.judgeReport.1.status ≠ .ok) :
    w.judgeReport.2 = w := by
  cases hw : w.report with
  | ok x => simp [judgeReport, hw, Verdict.status] at h
  | error fault => simp [judgeReport, hw]

/-- A command that fails leaves the world as it was. -/
theorem judge_of_status_ne_ok {w : World} {c : Command} (h : (w.judge c).1.status ≠ .ok) :
    (w.judge c).2 = w := by
  fun_cases judge w c with
  | case1 hv => exact judgeRobot_of_status_ne_ok (by rwa [judge, hv] at h)
  | case2 hv => exact judgeWall_of_status_ne_ok (by rwa [judge, hv] at h)
  | case3 hv => exact judgeMove_of_status_ne_ok (by rwa [judge, hv] at h)
  | case4 hv => exact judgeTurn_of_status_ne_ok (by rwa [judge, hv] at h)
  | case5 hv => exact judgeTurn_of_status_ne_ok (by rwa [judge, hv] at h)
  | case6 hv => exact judgeReport_of_status_ne_ok (by rwa [judge, hv] at h)
  | case7 hv => rfl

/-! ### Applying -/

/-- The outcome of a command, and the world after it, which carries the stamp of the verdict. -/
def apply (w : World) (c : Command) : Option Outcome × World :=
  if c.isEmpty then (none, w)
  else
    let (verdict, next) := w.judge c
    (some (verdict.outcome c.raw), next.stamped c.verb verdict.status verdict.message)

/-- The empty command does nothing. -/
theorem apply_of_isEmpty {w : World} {c : Command} (h : c.isEmpty = true) :
    w.apply c = (none, w) := by
  simp [apply, h]

/-- A command that is not empty has the outcome of its verdict. -/
theorem apply_of_not_isEmpty {w : World} {c : Command} (h : c.isEmpty = false) :
    w.apply c = (some ((w.judge c).1.outcome c.raw),
      (w.judge c).2.stamped c.verb (w.judge c).1.status (w.judge c).1.message) := by
  simp [apply, h]

/-- The world after a list of commands. -/
def applyAll (w : World) (cs : List Command) : World := cs.foldl (fun v c => (v.apply c).2) w

@[simp] theorem applyAll_nil (w : World) : w.applyAll [] = w := rfl

@[simp] theorem applyAll_cons (w : World) (c : Command) (cs : List Command) :
    w.applyAll (c :: cs) = (w.apply c).2.applyAll cs := rfl

/-- The outcome of each of a list of commands, carried out one after another. -/
def outcomes (w : World) : List Command → List (Option Outcome)
  | [] => []
  | c :: cs => (w.apply c).1 :: (w.apply c).2.outcomes cs

@[simp] theorem outcomes_nil (w : World) : w.outcomes [] = [] := rfl

@[simp] theorem outcomes_cons (w : World) (c : Command) (cs : List Command) :
    w.outcomes (c :: cs) = (w.apply c).1 :: (w.apply c).2.outcomes cs := rfl

/-- A command that has an outcome leaves the status of it in the stamp. -/
theorem status_apply (w : World) (c : Command) :
    (w.apply c).2.stamp.map Stamp.status =
      ((w.apply c).1.map Outcome.status).or (w.stamp.map Stamp.status) := by
  cases hc : c.isEmpty with
  | true => rw [apply_of_isEmpty hc]; rfl
  | false => rw [apply_of_not_isEmpty hc]; rfl

/-- The stamp has the status of the last outcome, whatever empty commands came behind it. -/
theorem status_applyAll (w : World) (cs : List Command) :
    (w.applyAll cs).stamp.map Stamp.status =
      (((w.outcomes cs).filterMap id).getLast?.map Outcome.status).or
        (w.stamp.map Stamp.status) := by
  induction cs generalizing w with
  | nil => rfl
  | cons c cs ih =>
      rw [applyAll_cons, ih, status_apply, outcomes_cons]
      cases (w.apply c).1 with
      | none => rfl
      | some o =>
          rw [List.filterMap_cons_some (f := id) rfl, List.getLast?_cons]
          cases ((w.apply c).2.outcomes cs |>.filterMap id).getLast? <;> rfl

theorem applyAll_append (w : World) (cs ds : List Command) :
    w.applyAll (cs ++ ds) = (w.applyAll cs).applyAll ds := by
  simp [applyAll]

theorem outcomes_append (w : World) (cs ds : List Command) :
    w.outcomes (cs ++ ds) = w.outcomes cs ++ (w.applyAll cs).outcomes ds := by
  induction cs generalizing w with
  | nil => rfl
  | cons c cs ih => simp [ih]

end TorusRobot.World
