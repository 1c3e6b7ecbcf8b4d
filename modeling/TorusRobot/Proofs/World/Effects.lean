/-
**What a command changes.**

Each verb owns one part of the world.  A command that takes effect changes that part and nothing
else, and what it makes of it can be said without following the command through the world: what
the arguments ask for, which cell lies ahead on the torus, which facing comes next in the cycle.
A command that fails changes nothing, and its status says why it failed.

Main definitions:

* `TorusRobot.World.Names` — the coordinate that a token stands for;
* `TorusRobot.Command.AsksForRobot`, `TorusRobot.Command.AsksForWall` — what a placement asks for;
* `TorusRobot.Position.Ahead` — the neighbour on the torus, by congruence of coordinates;
* `TorusRobot.Facing.clockwise` — the facings that follow one another;
* `TorusRobot.World.Effect` — what each verb does when it takes effect.

Main results:

* `TorusRobot.World.judge_ok_iff` — a command takes effect exactly as its verb says;
* `TorusRobot.World.judge_blocked_iff`, `TorusRobot.World.judge_notPlaced_iff` — when a robot that
  should act does not;
* `TorusRobot.World.commands_are_atomic` — every command on every reachable world.
-/
import TorusRobot.Proofs.Grid.Torus
import TorusRobot.Proofs.World.Reachable
import TorusRobot.World.Judgment

set_option relaxedAutoImplicit false
set_option autoImplicit false

namespace TorusRobot

/-- A text that is the name of a verb is read as that verb. -/
theorem Verb.ofName?_of_eq {s : String} (v : Verb) (h : s = v.name) : ofName? s = some v :=
  ofName?_eq_some_iff.2 h

/-! ### What the arguments ask for -/

/-- A token names a coordinate if it is an integer of that value. -/
def World.Names (token : String) (n : UInt32) : Prop :=
  Text.Decimal.integer? token.toList = some (n.toNat : Int)

/-- The arguments are a row, a column and a facing, and they describe the robot `r`. -/
def Command.AsksForRobot (c : Command) (r : Robot) : Prop :=
  ∃ row col, c.args = [row, col, r.facing.name] ∧
    World.Names row r.position.row ∧ World.Names col r.position.col

/-- The arguments are a row and a column, and they describe the cell `p`. -/
def Command.AsksForWall (c : Command) (p : Position) : Prop :=
  ∃ row col, c.args = [row, col] ∧ World.Names row p.row ∧ World.Names col p.col

/-- A value on the axis is a coordinate. -/
theorem Axis.exists_of_within {value : Int64} {side : UInt32} (h : Axis.within value side = true) :
    ∃ n : UInt32, Word64.narrow value = n ∧ value.toInt = n.toNat ∧
      1 ≤ n.toNat ∧ n.toNat ≤ side.toNat := by
  obtain ⟨hpos, hle⟩ := Axis.within_iff.1 h
  have hnarrow := Axis.toNat_narrow_of_within h
  exact ⟨_, rfl, hnarrow.symm, by omega, by omega⟩

namespace World

/-- A token that names a coordinate is read as that coordinate. -/
theorem axisToken?_of_names {token : String} {n : UInt32} (h : Names token n) :
    axisToken? token = some (Int64.ofInt n.toNat) := by
  rw [axisToken?, Text.Decimal.axisValue?_eq_some_iff, Word64.toInt_ofInt_toNat]
  exact h

/-- Two tokens give a cell exactly if they name its coordinates and it is on the grid. -/
theorem cellOf?_eq_some_iff {w : World} {row col : String} {p : Position} :
    w.cellOf? row col = some p ↔ Names row p.row ∧ Names col p.col ∧ p.OnGrid w.side := by
  constructor
  · intro h
    unfold cellOf? at h
    split at h
    · rename_i r c hr hc
      unfold Position.checked at h
      split at h
      · rename_i hin
        rw [Bool.and_eq_true] at hin
        obtain ⟨m, hm, hrm, hrow⟩ := Axis.exists_of_within hin.1
        obtain ⟨n, hn, hcn, hcol⟩ := Axis.exists_of_within hin.2
        rw [hm, hn] at h
        obtain rfl := Option.some.inj h
        have hrow' := Text.Decimal.axisValue?_eq_some_iff.1 hr
        have hcol' := Text.Decimal.axisValue?_eq_some_iff.1 hc
        rw [hrm] at hrow'
        rw [hcn] at hcol'
        exact ⟨hrow', hcol', hrow, hcol⟩
      · cases h
    · cases h
  · rintro ⟨hrow, hcol, hg⟩
    have hin := Position.within_iff.2 hg
    rw [Position.within] at hin
    rw [cellOf?, axisToken?_of_names hrow, axisToken?_of_names hcol]
    simp only [Position.checked, hin, if_true, Word64.narrow_ofInt_toNat]

/-- Three tokens give a robot exactly if the first two give its cell and the third its facing. -/
theorem robotOf?_eq_some_iff {w : World} {row col facing : String} {r : Robot} :
    w.robotOf? row col facing = some r ↔
      w.cellOf? row col = some r.position ∧ facing = r.facing.name := by
  rw [← Facing.ofName_eq_ok_iff]
  unfold robotOf?
  cases w.cellOf? row col with
  | none => simp
  | some p =>
      cases Facing.ofName facing with
      | error e => simp
      | ok f =>
          obtain ⟨q, g⟩ := r
          simp

end World

/-! ### The torus and the cycle of facings -/

/-- The cell `q` lies ahead of `p` in the direction of `f`: it is the cell of the grid whose
coordinates are those of `p` displaced by one step, up to multiples of the side. -/
structure Position.Ahead (side : UInt32) (f : Facing) (p q : Position) : Prop where
  onGrid : q.OnGrid side
  row : (side.toNat : Int) ∣ q.row.toNat - (p.row.toNat + f.offset.1)
  col : (side.toNat : Int) ∣ q.col.toNat - (p.col.toNat + f.offset.2)

namespace Position

/-- A step leads to the cell ahead. -/
theorem ahead_step (p : Position) (f : Facing) {side : UInt32} (h : 1 ≤ side.toNat) :
    Ahead side f p (p.step f side) := by
  refine ⟨onGrid_step p f h, ?_, ?_⟩
  · rw [step_eq_displaced p f h]
    exact (Axis.toNat_place_modEq _ h).symm.dvd
  · rw [step_eq_displaced p f h]
    exact (Axis.toNat_place_modEq _ h).symm.dvd

/-- There is one cell ahead, the one that a step leads to. -/
theorem ahead_iff {p q : Position} {f : Facing} {side : UInt32} (h : 1 ≤ side.toNat) :
    Ahead side f p q ↔ q = p.step f side := by
  constructor
  · intro hq
    have hrow := Axis.eq_place_of_modEq hq.onGrid.1 (Int.modEq_iff_dvd.2 hq.row).symm
    have hcol := Axis.eq_place_of_modEq hq.onGrid.2 (Int.modEq_iff_dvd.2 hq.col).symm
    rw [step_eq_displaced p f h, displaced, ← hrow, ← hcol]
  · rintro rfl
    exact ahead_step p f h

end Position

/-- The facings that follow one another in a turn with the clock. -/
def Facing.clockwise : List (Facing × Facing) :=
  [(.north, .east), (.east, .south), (.south, .west), (.west, .north)]

theorem Facing.mem_clockwise_right {f g : Facing} : (f, g) ∈ clockwise ↔ g = f.right := by
  cases f <;> cases g <;> decide

theorem Facing.mem_clockwise_left {f g : Facing} : (g, f) ∈ clockwise ↔ g = f.left := by
  cases f <;> cases g <;> decide

namespace World

/-! ### What each verb does -/

/-- What a command does to a world when it takes effect: one part of the world is replaced, and
the verb says which. -/
inductive Effect (w : World) (c : Command) : World → Prop where
  /-- The robot that was asked for, on a free cell of the grid. -/
  | placeRobot {r : Robot} (hv : c.verb = "PLACE_ROBOT") (hr : c.AsksForRobot r)
      (hg : r.position.OnGrid w.side) (hw : r.position ∉ w.walls) :
      Effect w c { w with robot := some r }
  /-- The wall that was asked for, behind the others, on a free cell of the grid. -/
  | placeWall {p : Position} (hv : c.verb = "PLACE_WALL") (hp : c.AsksForWall p)
      (hg : p.OnGrid w.side) (hr : ∀ r, w.robot = some r → r.position ≠ p) (hw : p ∉ w.walls) :
      Effect w c { w with walls := w.walls ++ [p] }
  /-- The position of the robot, which becomes the cell ahead. -/
  | move {r : Robot} {q : Position} (hv : c.verb = "MOVE") (hr : w.robot = some r)
      (hq : Position.Ahead w.side r.facing r.position q) (hw : q ∉ w.walls) :
      Effect w c { w with robot := some { r with position := q } }
  /-- The facing of the robot, which becomes the one before. -/
  | left {r : Robot} {f : Facing} (hv : c.verb = "LEFT") (hr : w.robot = some r)
      (hf : (f, r.facing) ∈ Facing.clockwise) :
      Effect w c { w with robot := some { r with facing := f } }
  /-- The facing of the robot, which becomes the one after. -/
  | right {r : Robot} {f : Facing} (hv : c.verb = "RIGHT") (hr : w.robot = some r)
      (hf : (r.facing, f) ∈ Facing.clockwise) :
      Effect w c { w with robot := some { r with facing := f } }
  /-- The last report, which becomes the text of the robot. -/
  | report {r : Robot} (hv : c.verb = "REPORT") (hr : w.robot = some r) :
      Effect w c { w with lastReport := some r.text }

/-- The command is a move, and a wall stands on the cell ahead of the robot. -/
def Obstructed (w : World) (c : Command) : Prop :=
  c.verb = "MOVE" ∧ ∃ r q, w.robot = some r ∧ Position.Ahead w.side r.facing r.position q ∧
    q ∈ w.walls

/-- The command is for a robot, and there is none. -/
def Robotless (w : World) (c : Command) : Prop :=
  c.verb ∈ ["MOVE", "LEFT", "RIGHT", "REPORT"] ∧ w.robot = none

/-- No command has an effect on the grid. -/
theorem Effect.side_eq {w v : World} {c : Command} (h : Effect w c v) : v.side = w.side := by
  cases h <;> rfl

/-- The stamp is no part of the effect. -/
theorem Effect.stamp_eq {w v : World} {c : Command} (h : Effect w c v) : v.stamp = w.stamp := by
  cases h <;> rfl

variable {w v : World} {c : Command}

/-! ### Placing -/

/-- The robot that was asked for is placed on a free cell. -/
theorem judgeRobot_of_asks {r : Robot} (hr : c.AsksForRobot r) (hg : r.position.OnGrid w.side)
    (hw : r.position ∉ w.walls) :
    w.judgeRobot c.args = (.robotPlaced r, { w with robot := some r }) := by
  obtain ⟨row, col, hargs, hrow, hcol⟩ := hr
  have hr : w.robotOf? row col r.facing.name = some r :=
    robotOf?_eq_some_iff.2 ⟨cellOf?_eq_some_iff.2 ⟨hrow, hcol, hg⟩, rfl⟩
  have hp := placeRobot_eq_ok_iff.2 ⟨Position.within_iff.2 hg, hw, rfl⟩
  simp only [hargs, judgeRobot, hr, hp]

/-- A robot is placed exactly if it was asked for and its cell is free. -/
theorem judgeRobot_ok_iff :
    (w.judgeRobot c.args).1.status = .ok ∧ (w.judgeRobot c.args).2 = v ↔
      ∃ r, c.AsksForRobot r ∧ r.position.OnGrid w.side ∧ r.position ∉ w.walls ∧
        v = { w with robot := some r } := by
  constructor
  · rintro ⟨hok, rfl⟩
    generalize hargs : c.args = args at hok
    fun_cases judgeRobot w args with
    | case1 row col facing hr => simp [judgeRobot, hr, Verdict.status] at hok
    | case2 row col facing r hr next hnext =>
        obtain ⟨hp, rfl⟩ := robotOf?_eq_some_iff.1 hr
        obtain ⟨hrow, hcol, hg⟩ := cellOf?_eq_some_iff.1 hp
        obtain ⟨_, hw, rfl⟩ := placeRobot_eq_ok_iff.1 hnext
        exact ⟨r, ⟨row, col, hargs, hrow, hcol⟩, hg, hw, rfl⟩
    | case3 row col facing r hr fault hfault =>
        simp [judgeRobot, hr, hfault, PlacementFault.status_verdict] at hok
    | case4 args' hshape => simp [judgeRobot, Verdict.status] at hok
  · rintro ⟨r, hr, hg, hw, rfl⟩
    simp only [judgeRobot_of_asks hr hg hw, Verdict.status, and_self]

/-- The wall that was asked for is placed on a free cell. -/
theorem judgeWall_of_asks {p : Position} (hp : c.AsksForWall p) (hg : p.OnGrid w.side)
    (hr : ∀ r, w.robot = some r → r.position ≠ p) (hw : p ∉ w.walls) :
    w.judgeWall c.args = (.wallPlaced p, { w with walls := w.walls ++ [p] }) := by
  obtain ⟨row, col, hargs, hrow, hcol⟩ := hp
  have hc := cellOf?_eq_some_iff.2 ⟨hrow, hcol, hg⟩
  have hp := placeWall_eq_ok_iff.2 ⟨Position.within_iff.2 hg, hr, hw, rfl⟩
  simp only [hargs, judgeWall, hc, hp]

/-- A wall is placed exactly if it was asked for and its cell is free. -/
theorem judgeWall_ok_iff :
    (w.judgeWall c.args).1.status = .ok ∧ (w.judgeWall c.args).2 = v ↔
      ∃ p, c.AsksForWall p ∧ p.OnGrid w.side ∧ (∀ r, w.robot = some r → r.position ≠ p) ∧
        p ∉ w.walls ∧ v = { w with walls := w.walls ++ [p] } := by
  constructor
  · rintro ⟨hok, rfl⟩
    generalize hargs : c.args = args at hok
    fun_cases judgeWall w args with
    | case1 row col hp => simp [judgeWall, hp, Verdict.status] at hok
    | case2 row col p hp next hnext =>
        obtain ⟨hrow, hcol, hg⟩ := cellOf?_eq_some_iff.1 hp
        obtain ⟨_, hr, hw, rfl⟩ := placeWall_eq_ok_iff.1 hnext
        exact ⟨p, ⟨row, col, hargs, hrow, hcol⟩, hg, hr, hw, rfl⟩
    | case3 row col p hp fault hfault =>
        simp [judgeWall, hp, hfault, PlacementFault.status_verdict] at hok
    | case4 args' hshape => simp [judgeWall, Verdict.status] at hok
  · rintro ⟨p, hp, hg, hr, hw, rfl⟩
    simp only [judgeWall_of_asks hp hg hr hw, Verdict.status, and_self]

/-- A placement succeeds or is invalid. -/
theorem status_judgeRobot (w : World) (args : List String) :
    (w.judgeRobot args).1.status = .ok ∨ (w.judgeRobot args).1.status = .invalid := by
  fun_cases judgeRobot w args with
  | case1 row col facing hr => exact .inr rfl
  | case2 row col facing r hr next hnext => exact .inl rfl
  | case3 row col facing r hr fault hfault => exact .inr (fault.status_verdict _)
  | case4 args hshape => exact .inr rfl

theorem status_judgeWall (w : World) (args : List String) :
    (w.judgeWall args).1.status = .ok ∨ (w.judgeWall args).1.status = .invalid := by
  fun_cases judgeWall w args with
  | case1 row col hp => exact .inr rfl
  | case2 row col p hp next hnext => exact .inl rfl
  | case3 row col p hp fault hfault => exact .inr (fault.status_verdict _)
  | case4 args hshape => exact .inr rfl

/-! ### Acting -/

/-- A robot moves to the cell ahead if no wall stands there. -/
theorem judgeMove_of_free {r : Robot} (hr : w.robot = some r)
    (hw : r.position.step r.facing w.side ∉ w.walls) :
    w.judgeMove = (.moved (r.position.step r.facing w.side),
      { w with robot := some { r with position := r.position.step r.facing w.side } }) := by
  have ha := advance_eq_ok_iff.2 ⟨r, hr, rfl, hw, rfl⟩
  rw [judgeMove, ha]
  rfl

theorem judgeMove_of_wall {r : Robot} (hr : w.robot = some r)
    (hw : r.position.step r.facing w.side ∈ w.walls) :
    w.judgeMove = (.blocked (r.position.step r.facing w.side), w) := by
  have ha : w.hasWall (r.ahead w.side).position = true := hasWall_eq_true.2 hw
  simp only [judgeMove, advance, hr, ha, if_true, MotionFault.verdict]
  rfl

theorem judgeTurn_of_robot {r : Robot} (t : Turn) (hr : w.robot = some r) :
    w.judgeTurn t = (.turned (r.turned t).facing, { w with robot := some (r.turned t) }) := by
  simp [judgeTurn, turn, hr]

theorem judgeReport_of_robot {r : Robot} (hr : w.robot = some r) :
    w.judgeReport = (.reported r.text, { w with lastReport := some r.text }) := by
  simp [judgeReport, report, hr]

theorem judgeMove_of_none (hr : w.robot = none) : w.judgeMove = (.notPlaced, w) := by
  simp [judgeMove, advance, hr, MotionFault.verdict]

theorem judgeTurn_of_none (t : Turn) (hr : w.robot = none) :
    w.judgeTurn t = (.notPlaced, w) := by
  simp [judgeTurn, turn, hr, MotionFault.verdict]

theorem judgeReport_of_none (hr : w.robot = none) : w.judgeReport = (.notPlaced, w) := by
  simp [judgeReport, report, hr, MotionFault.verdict]

/-! ### Every command -/

theorem isEmpty_of_verb {c : Command} {verb : Verb} (h : c.verb = verb.name) :
    c.isEmpty = false := by
  rw [Command.isEmpty, h]
  cases verb <;> rfl

/-- The four ways in which a command can go: it takes effect, a wall is in the way, there is no
robot, or it is invalid. -/
theorem judge_cases (c : Command) (h : 1 ≤ w.side.toNat) :
    ((w.judge c).1.status = .ok ∧ Effect w c (w.judge c).2) ∨
      ((w.judge c).1.status = .blocked ∧ Obstructed w c) ∨
      ((w.judge c).1.status = .notPlaced ∧ Robotless w c) ∨ (w.judge c).1.status = .invalid := by
  fun_cases judge w c with
  | case1 hv =>
      rcases status_judgeRobot w c.args with hok | hbad
      · obtain ⟨r, hr, hg, hw, heq⟩ := judgeRobot_ok_iff.1 ⟨hok, rfl⟩
        rw [heq]
        exact .inl ⟨hok, .placeRobot (Verb.ofName?_eq_some_iff.1 hv) hr hg hw⟩
      · exact .inr (.inr (.inr hbad))
  | case2 hv =>
      rcases status_judgeWall w c.args with hok | hbad
      · obtain ⟨p, hp, hg, hr, hw, heq⟩ := judgeWall_ok_iff.1 ⟨hok, rfl⟩
        rw [heq]
        exact .inl ⟨hok, .placeWall (Verb.ofName?_eq_some_iff.1 hv) hp hg hr hw⟩
      · exact .inr (.inr (.inr hbad))
  | case3 hv =>
      have hv := Verb.ofName?_eq_some_iff.1 hv
      cases hr : w.robot with
      | none =>
          rw [judgeMove_of_none hr]
          exact .inr (.inr (.inl ⟨rfl, by simp [hv, Verb.name], hr⟩))
      | some r =>
          have hq := Position.ahead_step r.position r.facing h
          by_cases hw : r.position.step r.facing w.side ∈ w.walls
          · rw [judgeMove_of_wall hr hw]
            exact .inr (.inl ⟨rfl, hv, r, _, hr, hq, hw⟩)
          · rw [judgeMove_of_free hr hw]
            exact .inl ⟨rfl, .move hv hr hq hw⟩
  | case4 hv =>
      have hv := Verb.ofName?_eq_some_iff.1 hv
      cases hr : w.robot with
      | none =>
          rw [judgeTurn_of_none _ hr]
          exact .inr (.inr (.inl ⟨rfl, by simp [hv, Verb.name], hr⟩))
      | some r =>
          rw [judgeTurn_of_robot _ hr]
          exact .inl ⟨rfl, .left hv hr (Facing.mem_clockwise_left.2 rfl)⟩
  | case5 hv =>
      have hv := Verb.ofName?_eq_some_iff.1 hv
      cases hr : w.robot with
      | none =>
          rw [judgeTurn_of_none _ hr]
          exact .inr (.inr (.inl ⟨rfl, by simp [hv, Verb.name], hr⟩))
      | some r =>
          rw [judgeTurn_of_robot _ hr]
          exact .inl ⟨rfl, .right hv hr (Facing.mem_clockwise_right.2 rfl)⟩
  | case6 hv =>
      have hv := Verb.ofName?_eq_some_iff.1 hv
      cases hr : w.robot with
      | none =>
          rw [judgeReport_of_none hr]
          exact .inr (.inr (.inl ⟨rfl, by simp [hv, Verb.name], hr⟩))
      | some r =>
          rw [judgeReport_of_robot hr]
          exact .inl ⟨rfl, .report hv hr⟩
  | case7 hv => exact .inr (.inr (.inr rfl))

/-- What the verb says takes effect. -/
theorem judge_of_effect (h : 1 ≤ w.side.toNat) (he : Effect w c v) :
    (w.judge c).1.status = .ok ∧ (w.judge c).2 = v := by
  cases he with
  | @placeRobot r hv hr hg hw =>
      rw [judge, Verb.ofName?_of_eq .placeRobot hv]
      exact judgeRobot_ok_iff.2 ⟨r, hr, hg, hw, rfl⟩
  | @placeWall p hv hp hg hr hw =>
      rw [judge, Verb.ofName?_of_eq .placeWall hv]
      exact judgeWall_ok_iff.2 ⟨p, hp, hg, hr, hw, rfl⟩
  | @move r q hv hr hq hw =>
      obtain rfl := (Position.ahead_iff h).1 hq
      rw [judge, Verb.ofName?_of_eq .move hv]
      simp only [judgeMove_of_free hr hw, Verdict.status, and_self]
  | @left r f hv hr hf =>
      obtain rfl := Facing.mem_clockwise_left.1 hf
      simp only [judge, Verb.ofName?_of_eq .left hv]
      rw [judgeTurn_of_robot _ hr]
      exact ⟨rfl, rfl⟩
  | @right r f hv hr hf =>
      obtain rfl := Facing.mem_clockwise_right.1 hf
      simp only [judge, Verb.ofName?_of_eq .right hv]
      rw [judgeTurn_of_robot _ hr]
      exact ⟨rfl, rfl⟩
  | @report r hv hr =>
      simp only [judge, Verb.ofName?_of_eq .report hv]
      rw [judgeReport_of_robot hr]
      exact ⟨rfl, rfl⟩

/-- A move toward a wall is blocked. -/
theorem judge_of_obstructed (h : 1 ≤ w.side.toNat) (ho : Obstructed w c) :
    (w.judge c).1.status = .blocked := by
  obtain ⟨hv, r, q, hr, hq, hw⟩ := ho
  obtain rfl := (Position.ahead_iff h).1 hq
  rw [judge, Verb.ofName?_of_eq .move hv]
  simp only [judgeMove_of_wall hr hw, Verdict.status]

/-- Without a robot there is nothing to move, to turn or to report. -/
theorem judge_of_robotless (h : Robotless w c) : (w.judge c).1.status = .notPlaced := by
  obtain ⟨hv, hr⟩ := h
  simp only [List.mem_cons, List.not_mem_nil, or_false] at hv
  rcases hv with hv | hv | hv | hv
  · rw [judge, Verb.ofName?_of_eq .move hv]
    simp only [judgeMove_of_none hr, Verdict.status]
  · rw [judge, Verb.ofName?_of_eq .left hv]
    simp only [judgeTurn_of_none _ hr, Verdict.status]
  · rw [judge, Verb.ofName?_of_eq .right hv]
    simp only [judgeTurn_of_none _ hr, Verdict.status]
  · rw [judge, Verb.ofName?_of_eq .report hv]
    simp only [judgeReport_of_none hr, Verdict.status]

/-- **A command takes effect exactly as its verb says**, and the world after it is as the verb
makes it. -/
theorem judge_ok_iff (h : 1 ≤ w.side.toNat) :
    (w.judge c).1.status = .ok ∧ (w.judge c).2 = v ↔ Effect w c v := by
  constructor
  · rintro ⟨hok, rfl⟩
    rcases judge_cases c h with ⟨_, he⟩ | ⟨hs, _⟩ | ⟨hs, _⟩ | hs
    · exact he
    all_goals
      rw [hok] at hs
      cases hs
  · exact judge_of_effect h

/-- The verb says one thing. -/
theorem Effect.unique {u : World} (h : 1 ≤ w.side.toNat) (hu : Effect w c u) (hv : Effect w c v) :
    u = v :=
  (judge_of_effect h hu).2.symm.trans (judge_of_effect h hv).2

/-- A command is blocked exactly if it is a move toward a wall. -/
theorem judge_blocked_iff (h : 1 ≤ w.side.toNat) :
    (w.judge c).1.status = .blocked ↔ Obstructed w c := by
  constructor
  · intro hb
    rcases judge_cases c h with ⟨hs, _⟩ | ⟨_, ho⟩ | ⟨hs, _⟩ | hs
    · rw [hb] at hs
      cases hs
    · exact ho
    all_goals
      rw [hb] at hs
      cases hs
  · exact judge_of_obstructed h

/-- A command finds no robot exactly if it is for one and there is none. -/
theorem judge_notPlaced_iff (h : 1 ≤ w.side.toNat) :
    (w.judge c).1.status = .notPlaced ↔ Robotless w c := by
  constructor
  · intro hn
    rcases judge_cases c h with ⟨hs, _⟩ | ⟨hs, _⟩ | ⟨_, hr⟩ | hs
    · rw [hn] at hs
      cases hs
    · rw [hn] at hs
      cases hs
    · exact hr
    · rw [hn] at hs
      cases hs
  · exact judge_of_robotless

/-- **Every command touches what its verb owns, or nothing.**  The empty command does nothing and
has no outcome.  Any other has one, which the world after it carries as its stamp; the stamp
apart, a command that fails leaves the world as it was, and one that takes effect makes of it
what its verb says.  A command is blocked exactly if it moves toward a wall, and it finds no robot
exactly if it is for one and there is none. -/
theorem commands_are_atomic {side : UInt32} {w : World} (h : Reachable side w) (c : Command) :
    (w.apply c).2.side = w.side ∧
    (c.verb = "" → w.apply c = (none, w)) ∧
    (c.verb ≠ "" → ∃ o v,
      w.apply c = (some o, { v with stamp := some ⟨c.verb, o.status, o.message⟩ }) ∧
      (o.status ≠ .ok → v = w) ∧
      (o.status = .ok → Effect w c v) ∧
      ((∃ u, Effect w c u) → o.status = .ok) ∧
      (o.status = .blocked ↔ Obstructed w c) ∧
      (o.status = .notPlaced ↔ Robotless w c)) := by
  obtain ⟨hside, hsound⟩ := h.sound
  have hpos := hsound.side_pos
  by_cases hc : c.verb = ""
  · have happ := apply_of_isEmpty (w := w) (c := c) (by simp [Command.isEmpty, hc])
    exact ⟨by rw [happ], fun _ => happ, fun hne => absurd hc hne⟩
  · have happ := apply_of_not_isEmpty (w := w) (c := c) (by simp [Command.isEmpty, hc])
    have hv : (w.judge c).1.status = .ok → Effect w c (w.judge c).2 :=
      fun hok => (judge_ok_iff hpos).1 ⟨hok, rfl⟩
    refine ⟨?_, fun he => absurd he hc, fun _ => ⟨_, _, happ, judge_of_status_ne_ok, hv, ?_,
      judge_blocked_iff hpos, judge_notPlaced_iff hpos⟩⟩
    · rw [happ]
      by_cases hok : (w.judge c).1.status = .ok
      · exact (hv hok).side_eq
      · show (w.judge c).2.side = w.side
        rw [judge_of_status_ne_ok hok]
    · rintro ⟨u, hu⟩
      exact (judge_of_effect hpos hu).1

/-- The robot that has re-entered the grid moves on, and all else stays. -/
theorem commands_are_atomic_roundTheEdge :
    Reachable 5 roundTheEdge ∧
      ∃ o, roundTheEdge.apply ⟨"MOVE", [], "move"⟩ =
        (some o, { side := 5, robot := some ⟨⟨2, 1⟩, .north⟩,
                   stamp := some ⟨"MOVE", .ok, o.message⟩ }) := by
  have hpos : 1 ≤ roundTheEdge.side.toNat := by decide
  have hmove : Effect roundTheEdge ⟨"MOVE", [], "move"⟩
      { roundTheEdge with robot := some ⟨⟨2, 1⟩, .north⟩ } :=
    .move (q := ⟨2, 1⟩) rfl rfl ((Position.ahead_iff hpos).2 (by decide)) (by decide)
  obtain ⟨o, v, happ, _, heffect, hok, _⟩ :=
    (commands_are_atomic reachable_roundTheEdge ⟨"MOVE", [], "move"⟩).2.2 (by decide)
  have hok := hok ⟨_, hmove⟩
  obtain rfl := Effect.unique hpos (heffect hok) hmove
  rw [hok] at happ
  exact ⟨reachable_roundTheEdge, o, happ⟩

end World

end TorusRobot
