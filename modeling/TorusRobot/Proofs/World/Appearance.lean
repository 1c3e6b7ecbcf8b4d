/-
**What commands can see of a world.**

A command sees the grid, the robot and on which cells walls stand.  In which order the walls were
placed, what was reported last and what the last command left behind it cannot see: worlds that
look the same have the same judgment of every command, and the judgment makes the same change to
each of them.  So they answer a list of commands alike and look the same at the end, and worlds
that are equal but for the order of their walls stay so.

Main definitions:

* `TorusRobot.World.LooksLike` — the same grid, the same robot, walls on the same cells;
* `TorusRobot.World.Change`, `TorusRobot.World.changed` — the one thing that a judgment changes.

Main results:

* `TorusRobot.World.LooksLike.judge` — **worlds that look the same are judged and changed alike**;
* `TorusRobot.World.agrees_iff` — which worlds are equal but for the order of their walls;
* `TorusRobot.World.outcomes_depend_on_appearance` — every list of commands on every two reachable
  worlds that look the same.
-/
import TorusRobot.Proofs.Session.Worlds
import TorusRobot.Proofs.World.Effects
import TorusRobot.Recording.Digest

set_option relaxedAutoImplicit false
set_option autoImplicit false

namespace TorusRobot.World

/-! ### Looking the same -/

/-- Two worlds look the same to every command. -/
structure LooksLike (v w : World) : Prop where
  side : v.side = w.side
  robot : v.robot = w.robot
  /-- Walls stand on the same cells, in whatever order they were placed. -/
  mem_walls : ∀ p, p ∈ v.walls ↔ p ∈ w.walls

/-- The one thing that a judgment changes in a world. -/
inductive Change where
  | nothing
  | robot (r : Robot)
  /-- One more wall, behind the others. -/
  | wall (p : Position)
  | report (text : String)

/-- The world after a change. -/
def changed (w : World) : Change → World
  | .nothing => w
  | .robot r => { w with robot := some r }
  | .wall p => { w with walls := w.walls ++ [p] }
  | .report text => { w with lastReport := some text }

/-- The judgments `a` on the world `v` and `b` on the world `w` come to the same verdict and change
the same thing. -/
def SameJudgment (v w : World) (a b : Verdict × World) : Prop :=
  ∃ verdict change, a = (verdict, v.changed change) ∧ b = (verdict, w.changed change)

/-- A change decides what the last report is, unless it leaves it as it was. -/
theorem lastReport_changed {v w : World} (h : v.lastReport = w.lastReport) (change : Change) :
    (v.changed change).lastReport = (w.changed change).lastReport := by
  cases change with
  | nothing => exact h
  | robot r => exact h
  | wall p => exact h
  | report text => rfl

namespace LooksLike

variable {v w : World}

theorem hasWall_eq (h : LooksLike v w) (p : Position) : v.hasWall p = w.hasWall p := by
  rw [Bool.eq_iff_iff, hasWall_eq_true, hasWall_eq_true]
  exact h.mem_walls p

theorem cellOf?_eq (h : LooksLike v w) (row col : String) : v.cellOf? row col = w.cellOf? row col := by
  simp only [cellOf?, h.side]

theorem robotOf?_eq (h : LooksLike v w) (row col facing : String) :
    v.robotOf? row col facing = w.robotOf? row col facing := by
  simp only [robotOf?, h.cellOf?_eq]

/-- The same change leaves worlds that look the same. -/
theorem changed (h : LooksLike v w) (change : Change) :
    LooksLike (v.changed change) (w.changed change) := by
  cases change with
  | nothing => exact h
  | robot r => exact ⟨h.side, rfl, h.mem_walls⟩
  | wall p =>
      refine ⟨h.side, h.robot, ?_⟩
      intro q
      simp only [World.changed, List.mem_append, h.mem_walls]
  | report text => exact ⟨h.side, h.robot, h.mem_walls⟩

/-- Stamps cannot be seen. -/
theorem stamped (h : LooksLike v w) (verb : String) (status : Status) (message : String) :
    LooksLike (v.stamped verb status message) (w.stamped verb status message) :=
  ⟨h.side, h.robot, h.mem_walls⟩

/-! ### Judgments -/

/-- A robot can be placed in both worlds or in neither, for the same reason. -/
theorem placeRobot_eq (h : LooksLike v w) (r : Robot) :
    v.placeRobot r = (w.placeRobot r).map fun _ => v.changed (.robot r) := by
  unfold placeRobot offGrid
  rw [h.side, h.hasWall_eq]
  split
  · split
    · rfl
    · simp only [Except.map, World.changed, h.side]
  · rfl

/-- A wall can be placed in both worlds or in neither, for the same reason. -/
theorem placeWall_eq (h : LooksLike v w) (p : Position) :
    v.placeWall p = (w.placeWall p).map fun _ => v.changed (.wall p) := by
  unfold placeWall offGrid
  rw [h.side, h.robot, h.hasWall_eq]
  split
  · split
    · rfl
    · split
      · rfl
      · simp only [Except.map, World.changed, h.side, h.robot]
  · rfl

theorem judgeRobot (h : LooksLike v w) (args : List String) :
    SameJudgment v w (v.judgeRobot args) (w.judgeRobot args) := by
  fun_cases World.judgeRobot w args with
  | case1 row col facing hr =>
      refine ⟨_, .nothing, ?_, rfl⟩
      simp only [World.judgeRobot, h.robotOf?_eq, hr]
      rfl
  | case2 row col facing r hr next hnext =>
      obtain ⟨_, _, rfl⟩ := placeRobot_eq_ok_iff.1 hnext
      refine ⟨_, .robot r, ?_, rfl⟩
      simp only [World.judgeRobot, h.robotOf?_eq, hr, h.placeRobot_eq, hnext, Except.map]
  | case3 row col facing r hr fault hfault =>
      refine ⟨_, .nothing, ?_, rfl⟩
      simp only [World.judgeRobot, h.robotOf?_eq, hr, h.placeRobot_eq, hfault, Except.map]
      rfl
  | case4 args hargs => exact ⟨_, .nothing, by simp only [World.judgeRobot, World.changed], rfl⟩

theorem judgeWall (h : LooksLike v w) (args : List String) :
    SameJudgment v w (v.judgeWall args) (w.judgeWall args) := by
  fun_cases World.judgeWall w args with
  | case1 row col hp =>
      refine ⟨_, .nothing, ?_, rfl⟩
      simp only [World.judgeWall, h.cellOf?_eq, hp]
      rfl
  | case2 row col p hp next hnext =>
      obtain ⟨_, _, _, rfl⟩ := placeWall_eq_ok_iff.1 hnext
      refine ⟨_, .wall p, ?_, rfl⟩
      simp only [World.judgeWall, h.cellOf?_eq, hp, h.placeWall_eq, hnext, Except.map]
  | case3 row col p hp fault hfault =>
      refine ⟨_, .nothing, ?_, rfl⟩
      simp only [World.judgeWall, h.cellOf?_eq, hp, h.placeWall_eq, hfault, Except.map]
      rfl
  | case4 args hargs => exact ⟨_, .nothing, by simp only [World.judgeWall, World.changed], rfl⟩

theorem judgeMove (h : LooksLike v w) : SameJudgment v w v.judgeMove w.judgeMove := by
  cases hr : w.robot with
  | none =>
      rw [judgeMove_of_none (h.robot.trans hr), judgeMove_of_none hr]
      exact ⟨_, .nothing, rfl, rfl⟩
  | some r =>
      have hv := h.robot.trans hr
      by_cases hw : r.position.step r.facing w.side ∈ w.walls
      · rw [judgeMove_of_wall hr hw, judgeMove_of_wall hv (by rwa [h.side, h.mem_walls]), h.side]
        exact ⟨_, .nothing, rfl, rfl⟩
      · rw [judgeMove_of_free hr hw, judgeMove_of_free hv (by rwa [h.side, h.mem_walls])]
        refine ⟨_, .robot _, ?_, rfl⟩
        simp only [World.changed, h.side]

theorem judgeTurn (h : LooksLike v w) (t : Turn) :
    SameJudgment v w (v.judgeTurn t) (w.judgeTurn t) := by
  cases hr : w.robot with
  | none =>
      rw [judgeTurn_of_none t (h.robot.trans hr), judgeTurn_of_none t hr]
      exact ⟨_, .nothing, rfl, rfl⟩
  | some r =>
      rw [judgeTurn_of_robot t (h.robot.trans hr), judgeTurn_of_robot t hr]
      exact ⟨_, .robot _, rfl, rfl⟩

theorem judgeReport (h : LooksLike v w) : SameJudgment v w v.judgeReport w.judgeReport := by
  cases hr : w.robot with
  | none =>
      rw [judgeReport_of_none (h.robot.trans hr), judgeReport_of_none hr]
      exact ⟨_, .nothing, rfl, rfl⟩
  | some r =>
      rw [judgeReport_of_robot (h.robot.trans hr), judgeReport_of_robot hr]
      exact ⟨_, .report _, rfl, rfl⟩

/-- **Worlds that look the same are judged and changed alike.** -/
theorem judge (h : LooksLike v w) (c : Command) : SameJudgment v w (v.judge c) (w.judge c) := by
  unfold World.judge
  split
  · exact h.judgeRobot c.args
  · exact h.judgeWall c.args
  · exact h.judgeMove
  · exact h.judgeTurn .left
  · exact h.judgeTurn .right
  · exact h.judgeReport
  · exact ⟨_, .nothing, rfl, rfl⟩

/-! ### Commands -/

/-- Worlds that look the same have the same outcome of a command, and look the same after it. -/
theorem apply (h : LooksLike v w) (c : Command) :
    (v.apply c).1 = (w.apply c).1 ∧ LooksLike (v.apply c).2 (w.apply c).2 := by
  cases hc : c.isEmpty with
  | true =>
      rw [apply_of_isEmpty hc, apply_of_isEmpty hc]
      exact ⟨rfl, h⟩
  | false =>
      obtain ⟨verdict, change, hv, hw⟩ := h.judge c
      rw [apply_of_not_isEmpty hc, apply_of_not_isEmpty hc, hv, hw]
      exact ⟨rfl, (h.changed change).stamped _ _ _⟩

/-- So it is with the commands of a list, one after another. -/
theorem applyAll (h : LooksLike v w) (cs : List Command) :
    v.outcomes cs = w.outcomes cs ∧ LooksLike (v.applyAll cs) (w.applyAll cs) := by
  induction cs generalizing v w with
  | nil => exact ⟨rfl, h⟩
  | cons c cs ih =>
      obtain ⟨hout, hnext⟩ := h.apply c
      obtain ⟨hrest, hlast⟩ := ih hnext
      rw [outcomes_cons, outcomes_cons, hout, hrest]
      exact ⟨rfl, hlast⟩

end LooksLike

/-! ### Equality but for the order of the walls -/

/-- Two worlds are equal but for the order of their walls. -/
structure SameButOrder (v w : World) : Prop extends LooksLike v w where
  lastReport : v.lastReport = w.lastReport
  stamp : v.stamp = w.stamp

/-- Sound worlds pass the test for equality if they are equal but for the order of their walls: as
no cell holds two walls, it is enough that the walls of one are among those of the other and that
they are as many. -/
theorem agrees_iff {v w : World} (hv : Sound v) (hw : Sound w) :
    v.agrees w = true ↔ SameButOrder v w := by
  simp only [agrees, Bool.and_eq_true, decide_eq_true_eq, List.all_eq_true, hasWall_eq_true]
  constructor
  · rintro ⟨⟨⟨⟨⟨hside, hrobot⟩, hlen⟩, hsub⟩, hreport⟩, hstamp⟩
    have hperm : v.walls.Perm w.walls :=
      (List.subperm_of_subset hv.walls_nodup hsub).perm_of_length_le hlen.ge
    exact ⟨⟨hside, hrobot, fun p => hperm.mem_iff⟩, hreport, hstamp⟩
  · intro h
    have hperm : v.walls.Perm w.walls :=
      (List.perm_ext_iff_of_nodup hv.walls_nodup hw.walls_nodup).2 h.mem_walls
    exact ⟨⟨⟨⟨⟨h.side, h.robot⟩, hperm.length_eq⟩, fun p hp => hperm.subset hp⟩, h.lastReport⟩,
      h.stamp⟩

namespace SameButOrder

variable {v w : World}

theorem apply (h : SameButOrder v w) (c : Command) :
    SameButOrder (v.apply c).2 (w.apply c).2 := by
  cases hc : c.isEmpty with
  | true =>
      rw [apply_of_isEmpty hc, apply_of_isEmpty hc]
      exact h
  | false =>
      have hlook := (h.toLooksLike.apply c).2
      obtain ⟨verdict, change, hv, hw⟩ := h.toLooksLike.judge c
      rw [apply_of_not_isEmpty hc, apply_of_not_isEmpty hc, hv, hw] at hlook ⊢
      exact ⟨hlook, lastReport_changed h.lastReport change, rfl⟩

theorem applyAll (h : SameButOrder v w) (cs : List Command) :
    SameButOrder (v.applyAll cs) (w.applyAll cs) := by
  induction cs generalizing v w with
  | nil => exact h
  | cons c cs ih => exact ih (h.apply c)

end SameButOrder

/-- **Outcomes depend only on what can be seen of a world.**  Two reachable worlds have the same
grid, the same robot and walls on the same cells; the order in which the walls were placed, the
last reports and the last stamps may differ.  Then every list of commands has the same outcomes in
both, and at the end they look the same again.  If moreover the two are equal when the order of
the walls is left out of account, they are so at the end. -/
theorem outcomes_depend_on_appearance {m n : UInt32} {v w : World} (hv : Reachable m v)
    (hw : Reachable n w) (h : LooksLike v w) (cs : List Command) :
    v.outcomes cs = w.outcomes cs ∧ LooksLike (v.applyAll cs) (w.applyAll cs) ∧
      (v.agrees w = true → (v.applyAll cs).agrees (w.applyAll cs) = true) := by
  obtain ⟨hout, hlast⟩ := h.applyAll cs
  refine ⟨hout, hlast, ?_⟩
  intro hagree
  have hsame := (agrees_iff hv.sound.2 hw.sound.2).1 hagree
  exact (agrees_iff (hv.applyAll cs).sound.2 (hw.applyAll cs).sound.2).2 (hsame.applyAll cs)

/-- A robot in a corner, with two walls. -/
def cornered (p q : Position) : World :=
  { side := 5, robot := some ⟨⟨1, 1⟩, .north⟩, walls := [p, q] }

theorem reachable_cornered {p q : Position} {u v : World}
    (hp : initial.after? (.placeWall p) = some u) (hq : u.after? (.placeWall q) = some v)
    (hr : v.after? (.placeRobot ⟨⟨1, 1⟩, .north⟩) = some (cornered p q)) :
    Reachable 5 (cornered p q) :=
  .after (.after (.after .initial hp) hq) hr

/-- A script that meets both walls, adds one and reports. -/
def probing : List Command :=
  ["MOVE", "PLACE_WALL 1,2", "RIGHT", "MOVE", "PLACE_WALL 3,3", "REPORT"].map Command.read

/-- The hypotheses of `TorusRobot.World.outcomes_depend_on_appearance` are met by two walls that
were placed in either order, which the digest tells apart. -/
theorem outcomes_depend_on_appearance_cornered :
    (cornered ⟨2, 1⟩ ⟨1, 2⟩).digest ≠ (cornered ⟨1, 2⟩ ⟨2, 1⟩).digest ∧
      (cornered ⟨2, 1⟩ ⟨1, 2⟩).outcomes probing = (cornered ⟨1, 2⟩ ⟨2, 1⟩).outcomes probing ∧
      LooksLike ((cornered ⟨2, 1⟩ ⟨1, 2⟩).applyAll probing)
        ((cornered ⟨1, 2⟩ ⟨2, 1⟩).applyAll probing) ∧
      ((cornered ⟨2, 1⟩ ⟨1, 2⟩).applyAll probing).agrees
        ((cornered ⟨1, 2⟩ ⟨2, 1⟩).applyAll probing) = true := by
  have hv : Reachable 5 (cornered ⟨2, 1⟩ ⟨1, 2⟩) :=
    reachable_cornered (u := { side := 5, walls := [⟨2, 1⟩] })
      (v := { side := 5, walls := [⟨2, 1⟩, ⟨1, 2⟩] }) (by decide) (by decide) (by decide)
  have hw : Reachable 5 (cornered ⟨1, 2⟩ ⟨2, 1⟩) :=
    reachable_cornered (u := { side := 5, walls := [⟨1, 2⟩] })
      (v := { side := 5, walls := [⟨1, 2⟩, ⟨2, 1⟩] }) (by decide) (by decide) (by decide)
  have hagree : (cornered ⟨2, 1⟩ ⟨1, 2⟩).agrees (cornered ⟨1, 2⟩ ⟨2, 1⟩) = true := by decide
  have hlook := ((agrees_iff hv.sound.2 hw.sound.2).1 hagree).toLooksLike
  obtain ⟨hout, hlast, hkept⟩ := outcomes_depend_on_appearance hv hw hlook probing
  exact ⟨by decide +kernel, hout, hlast, hkept hagree⟩

end TorusRobot.World
