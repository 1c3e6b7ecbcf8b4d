/-
**The worlds of a session.**

A command does to the world what the transitions do, and the operations of a session do what
commands and clearing do.  So the worlds of a session are reachable, and what holds of all
reachable worlds holds of them.

Main results:

* `TorusRobot.World.grows_judge`, `TorusRobot.World.grows_apply` — a command is at most two
  transitions;
* `TorusRobot.World.Reachable.applyAll` — commands lead to reachable worlds;
* `TorusRobot.Session.grows_perform` — only a reset takes walls away;
* `TorusRobot.Session.reachable_run` — the worlds of a session are reachable;
* `TorusRobot.Session.world_invariant` — what holds of every world.
-/
import TorusRobot.Proofs.Session.Operations
import TorusRobot.Proofs.World.Reachable

set_option relaxedAutoImplicit false
set_option autoImplicit false

namespace TorusRobot

/-! ### Commands -/

namespace World

theorem grows_judgeRobot (w : World) (args : List String) : w.Grows (w.judgeRobot args).2 := by
  fun_cases judgeRobot w args with
  | case1 row col facing hr => exact Grows.refl w
  | case2 row col facing r hr next hw =>
      exact Grows.of_after? (t := .placeRobot r) (by simp) (after?_placeRobot.2 hw)
  | case3 row col facing r hr fault hw => exact Grows.refl w
  | case4 args hargs => exact Grows.refl w

theorem grows_judgeWall (w : World) (args : List String) : w.Grows (w.judgeWall args).2 := by
  fun_cases judgeWall w args with
  | case1 row col hp => exact Grows.refl w
  | case2 row col p hp next hw =>
      exact Grows.of_after? (t := .placeWall p) (by simp) (after?_placeWall.2 hw)
  | case3 row col p hp fault hw => exact Grows.refl w
  | case4 args hargs => exact Grows.refl w

theorem grows_judgeMove (w : World) : w.Grows w.judgeMove.2 := by
  unfold judgeMove
  cases h : w.advance with
  | ok x => exact Grows.of_after? (t := .advance) nofun (after?_advance.2 ⟨x.2, h⟩)
  | error fault => exact Grows.refl w

theorem grows_judgeTurn (w : World) (t : Turn) : w.Grows (w.judgeTurn t).2 := by
  unfold judgeTurn
  cases h : w.turn t with
  | ok x => exact Grows.of_after? (t := .turn t) nofun (after?_turn.2 ⟨x.2, h⟩)
  | error fault => exact Grows.refl w

theorem grows_judgeReport (w : World) : w.Grows w.judgeReport.2 := by
  unfold judgeReport
  cases h : w.report with
  | ok x => exact Grows.of_after? (t := .report) nofun (after?_report.2 ⟨x.2, h⟩)
  | error fault => exact Grows.refl w

/-- A judgment is a transition, or none at all. -/
theorem grows_judge (w : World) (c : Command) : w.Grows (w.judge c).2 := by
  unfold judge
  split
  · exact grows_judgeRobot w c.args
  · exact grows_judgeWall w c.args
  · exact grows_judgeMove w
  · exact grows_judgeTurn w .left
  · exact grows_judgeTurn w .right
  · exact grows_judgeReport w
  · exact Grows.refl w

/-- The command leaves its stamp behind its judgment. -/
theorem grows_apply (w : World) (c : Command) : w.Grows (w.apply c).2 := by
  cases hc : c.isEmpty with
  | true =>
      rw [apply_of_isEmpty hc]
      exact Grows.refl w
  | false =>
      rw [apply_of_not_isEmpty hc]
      refine (grows_judge w c).trans ?_
      exact Grows.of_after? (t := .stamp c.verb (w.judge c).1.status (w.judge c).1.message) nofun
        (after?_stamp.2 rfl)

/-- Commands lead from reachable worlds to reachable ones. -/
theorem Reachable.applyAll {side : UInt32} {w : World} (h : Reachable side w) (cs : List Command) :
    Reachable side (w.applyAll cs) := by
  induction cs generalizing w with
  | nil => exact h
  | cons c cs ih => exact ih ((grows_apply w c).reachable h)

end World

/-! ### Operations -/

namespace Session

open World

/-- **Only a reset takes walls away.** -/
theorem grows_perform (s : Session) {op : Operation} (h : ∀ now, op ≠ .reset now) :
    s.world.Grows (s.perform op).1.world := by
  cases op with
  | submit line now =>
      rw [perform_submit, world_submit]
      exact grows_apply s.world (s.commandOf line)
  | reset now => exact absurd rfl (h now)
  | dismiss id =>
      rw [perform_dismiss, world_dismiss]
      exact Grows.refl s.world
  | expire now =>
      rw [perform_expire, world_expire]
      exact Grows.refl s.world

theorem reachable_perform {side : UInt32} {s : Session} (h : Reachable side s.world)
    (op : Operation) : Reachable side (s.perform op).1.world := by
  cases op with
  | submit line now =>
      have hop : ∀ n, Operation.submit line now ≠ .reset n := nofun
      exact (grows_perform s hop).reachable h
  | reset now =>
      rw [perform_reset, world_reset]
      exact h.after (after?_clear.2 rfl)
  | dismiss id =>
      rw [perform_dismiss, world_dismiss]
      exact h
  | expire now =>
      rw [perform_expire, world_expire]
      exact h

/-- The world of a fresh session is an empty one. -/
theorem reachable_start {settings : Settings} {s : Session} (h : start settings = .ok s) :
    Reachable settings.side s.world := by
  obtain ⟨hcheck, rfl⟩ := start_eq_ok_iff.1 h
  have hside := (Settings.check_eq_ok_iff.1 hcheck).1
  have hgrid := Grid.checkSide_eq_ok_iff.2 ⟨rfl, hside⟩
  apply Reachable.ofSide
  rw [World.ofSide, hgrid]
  rfl

/-- **The worlds of a session are reachable.** -/
theorem reachable_run {side : UInt32} {s : Session} (h : Reachable side s.world)
    (ops : List Operation) : Reachable side (s.run ops).world := by
  induction ops generalizing s with
  | nil => exact h
  | cons op ops ih => exact ih (reachable_perform h op)

/-- **The invariant of worlds.**  A world that transitions lead to from an empty one is sound and
on the grid it began on; its robot and its walls are no more than the cells of the grid, and four
bytes tell how many walls there are.  A transition other than clearing leaves the walls where they
are.  All worlds of a session are of this kind, and there a reset is the only way to clear. -/
theorem world_invariant :
    (∀ (side : UInt32) (w : World), Reachable side w →
      (w.side = side ∧ w.Sound ∧
        w.walls.length + (if w.robot.isSome then 1 else 0) ≤ side.toNat * side.toNat ∧
        LittleEndian.decode (LittleEndian.encode 4 w.walls.length) = w.walls.length) ∧
      ∀ (t : Transition) (v : World), w.after? t = some v → t ≠ .clear → w.walls <+: v.walls) ∧
    ∀ (settings : Settings) (s : Session), start settings = .ok s → ∀ ops : List Operation,
      Reachable settings.side (s.run ops).world ∧
      ∀ op : Operation, (∀ now, op ≠ .reset now) →
        (s.run ops).world.walls <+: ((s.run ops).perform op).1.world.walls := by
  constructor
  · intro side w hw
    obtain ⟨rfl, hsound⟩ := hw.sound
    refine ⟨⟨rfl, hsound, hsound.length_walls_le, hsound.decode_length_walls⟩, ?_⟩
    intro t v h ht
    exact (kept_of_after? h).2 ht
  · intro settings s hs ops
    refine ⟨reachable_run (reachable_start hs) ops, ?_⟩
    intro op hop
    exact (grows_perform (s.run ops) hop).keeps_walls

/-- The hypotheses of `TorusRobot.Session.world_invariant` are met by a robot that has gone around
the edge, by a wall put where it came from, and by a session that has seen a reset. -/
theorem world_invariant_roundTheEdge :
    (roundTheEdge.Sound ∧ roundTheEdge.walls.length + 1 ≤ 5 * 5 ∧
      ∃ v, roundTheEdge.after? (.placeWall ⟨5, 1⟩) = some v ∧ roundTheEdge.walls <+: v.walls) ∧
    ∃ s, start {} = .ok s ∧ Reachable 5 (s.run [.reset 3, .submit "report" 2]).world ∧
      (s.run [.reset 3, .submit "report" 2]).world.walls <+:
        ((s.run [.reset 3, .submit "report" 2]).perform (.expire 9000)).1.world.walls := by
  obtain ⟨hworlds, hsessions⟩ := world_invariant
  obtain ⟨⟨_, hsound, hcells, _⟩, hstep⟩ := hworlds 5 roundTheEdge reachable_roundTheEdge
  have hwall : roundTheEdge.after? (.placeWall ⟨5, 1⟩) =
      some { roundTheEdge with walls := [⟨5, 1⟩] } := by decide
  have hs : start {} = .ok (fresh {}) := start_eq_ok_iff.2 ⟨rfl, rfl⟩
  obtain ⟨hreach, hkept⟩ := hsessions {} (fresh {}) hs [.reset 3, .submit "report" 2]
  refine ⟨⟨hsound, hcells, _, hwall, hstep _ _ hwall nofun⟩, fresh {}, hs, hreach, ?_⟩
  exact hkept (.expire 9000) nofun

end Session

end TorusRobot
