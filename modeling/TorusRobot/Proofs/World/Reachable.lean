/-
**Reachable worlds.**

The worlds that transitions lead to from an empty one are sound: the grid keeps its side, robot and
walls stand on cells of the grid, and no cell holds two of them.  A grid of side `n` has `n * n`
cells, so there are never more walls than that, and their number fits the four bytes that the
description of a world gives it.

Main definitions:

* `TorusRobot.World.Transition`, `TorusRobot.World.after?` — what can be done to a world;
* `TorusRobot.World.Reachable` — the worlds that transitions lead to;
* `TorusRobot.World.Grows` — the worlds that a world can become before it is cleared;
* `TorusRobot.World.Sound` — what holds of reachable worlds;
* `TorusRobot.World.occupied` — the cells that hold something.

Main results:

* `TorusRobot.World.Sound.after?` — a transition keeps a world sound;
* `TorusRobot.World.Reachable.sound` — reachable worlds are sound;
* `TorusRobot.World.Sound.length_walls_le` — robot and walls have cells of their own;
* `TorusRobot.World.kept_of_after?` — the grid stays, and so do the walls until all is cleared.
-/
import Mathlib.Data.Finset.Prod
import Mathlib.Logic.Relation
import Mathlib.Order.Interval.Finset.Nat
import TorusRobot.Recording.LittleEndian
import TorusRobot.World.Basic

set_option relaxedAutoImplicit false
set_option autoImplicit false

namespace TorusRobot

/-! ### Counting cells -/

/-- **A grid of side `n` has no more than `n * n` cells**, so a list of different ones is no longer
than that. -/
theorem Position.length_le_of_onGrid {ps : List Position} {side : UInt32} (hn : ps.Nodup)
    (hg : ∀ p ∈ ps, p.OnGrid side) : ps.length ≤ side.toNat * side.toNat := by
  have hinj : Function.Injective fun p : Position => (p.row.toNat, p.col.toNat) := by
    intro p q h
    obtain ⟨hrow, hcol⟩ := Prod.mk.inj h
    cases p
    cases q
    simp only [UInt32.toNat_inj] at hrow hcol
    rw [hrow, hcol]
  -- a cell is a pair of coordinates, and both run along an axis of `side` values
  let axis := Finset.Icc 1 side.toNat
  have hsub : (ps.map fun p => (p.row.toNat, p.col.toNat)).toFinset ⊆ axis ×ˢ axis := by
    intro c hc
    obtain ⟨p, hp, rfl⟩ := List.mem_map.1 (List.mem_toFinset.1 hc)
    have hp := hg p hp
    exact Finset.mem_product.2 ⟨Finset.mem_Icc.2 hp.1, Finset.mem_Icc.2 hp.2⟩
  have hcard := Finset.card_le_card hsub
  rw [List.toFinset_card_of_nodup (hn.map hinj), List.length_map, Finset.card_product] at hcard
  simpa only [axis, Nat.card_Icc, Nat.add_sub_cancel] using hcard

namespace World

/-! ### Transitions -/

/-- What can be done to a world. -/
inductive Transition where
  | placeRobot (r : Robot)
  | placeWall (p : Position)
  | advance
  | turn (t : Turn)
  | report
  | stamp (verb : String) (status : Status) (message : String)
  | clear
deriving DecidableEq, Repr

/-- The world after a transition, if it takes effect. -/
def after? (w : World) : Transition → Option World
  | .placeRobot r => (w.placeRobot r).toOption
  | .placeWall p => (w.placeWall p).toOption
  | .advance => w.advance.toOption.map Prod.fst
  | .turn t => (w.turn t).toOption.map Prod.fst
  | .report => w.report.toOption.map Prod.fst
  | .stamp verb status message => some (w.stamped verb status message)
  | .clear => some w.cleared

/-- The worlds that transitions lead to from an empty world on a grid of the given side. -/
inductive Reachable : UInt32 → World → Prop where
  | initial : Reachable Grid.defaultSide initial
  | ofSide {side : UInt32} {w : World} (h : ofSide side = .ok w) : Reachable side w
  | after {side : UInt32} {w v : World} {t : Transition} (hw : Reachable side w)
      (h : w.after? t = some v) : Reachable side v

theorem toOption_eq_some_iff {ε α : Type} {x : Except ε α} {a : α} :
    x.toOption = some a ↔ x = .ok a := by
  cases x <;> simp [Except.toOption]

theorem toOption_map_fst_eq_some_iff {ε α β : Type} {x : Except ε (α × β)} {a : α} :
    x.toOption.map Prod.fst = some a ↔ ∃ b, x = .ok (a, b) := by
  cases x <;> simp [Except.toOption, Prod.ext_iff]

theorem after?_placeRobot {w v : World} {r : Robot} :
    w.after? (.placeRobot r) = some v ↔ w.placeRobot r = .ok v := toOption_eq_some_iff

theorem after?_placeWall {w v : World} {p : Position} :
    w.after? (.placeWall p) = some v ↔ w.placeWall p = .ok v := toOption_eq_some_iff

theorem after?_advance {w v : World} :
    w.after? .advance = some v ↔ ∃ r, w.advance = .ok (v, r) := toOption_map_fst_eq_some_iff

theorem after?_turn {w v : World} {t : Turn} :
    w.after? (.turn t) = some v ↔ ∃ r, w.turn t = .ok (v, r) := toOption_map_fst_eq_some_iff

theorem after?_report {w v : World} :
    w.after? .report = some v ↔ ∃ s, w.report = .ok (v, s) := toOption_map_fst_eq_some_iff

theorem after?_stamp {w v : World} {verb : String} {status : Status} {message : String} :
    w.after? (.stamp verb status message) = some v ↔ v = w.stamped verb status message :=
  Option.some_inj.trans eq_comm

theorem after?_clear {w v : World} : w.after? .clear = some v ↔ v = w.cleared :=
  Option.some_inj.trans eq_comm

/-! ### Soundness -/

/-- What holds of a reachable world. -/
structure Sound (w : World) : Prop where
  side_pos : 1 ≤ w.side.toNat
  side_le : w.side.toNat ≤ 4096
  robot_onGrid : ∀ r, w.robot = some r → r.position.OnGrid w.side
  robot_notMem : ∀ r, w.robot = some r → r.position ∉ w.walls
  wall_onGrid : ∀ p ∈ w.walls, p.OnGrid w.side
  walls_nodup : w.walls.Nodup
  /-- The last report is that of some robot on the grid. -/
  report_eq : ∀ s, w.lastReport = some s → ∃ r : Robot, r.position.OnGrid w.side ∧ s = r.text

namespace Sound

variable {w v : World}

theorem empty {side : UInt32} (hpos : 1 ≤ side.toNat) (hle : side.toNat ≤ 4096) :
    Sound { side := side } where
  side_pos := hpos
  side_le := hle
  robot_onGrid := by
    intro r hr
    cases hr
  robot_notMem := by
    intro r hr
    cases hr
  wall_onGrid := by
    intro p hp
    cases hp
  walls_nodup := List.nodup_nil
  report_eq := by
    intro s hs
    cases hs

theorem initial : Sound World.initial := empty (by decide) (by decide)

theorem ofSide {side : UInt32} (h : World.ofSide side = .ok w) : w.side = side ∧ Sound w := by
  unfold World.ofSide at h
  cases hn : Grid.checkSide side with
  | error fault =>
      rw [hn] at h
      cases h
  | ok n =>
      rw [hn] at h
      obtain rfl := Except.ok.inj h
      obtain ⟨rfl, hpos, hle⟩ := Grid.checkSide_eq_ok_iff.1 hn
      exact ⟨rfl, empty hpos hle⟩

theorem withRobot (hw : Sound w) {r : Robot} (hg : r.position.OnGrid w.side)
    (hn : r.position ∉ w.walls) : Sound { w with robot := some r } where
  side_pos := hw.side_pos
  side_le := hw.side_le
  robot_onGrid := by
    intro r' hr
    obtain rfl := Option.some.inj hr
    exact hg
  robot_notMem := by
    intro r' hr
    obtain rfl := Option.some.inj hr
    exact hn
  wall_onGrid := hw.wall_onGrid
  walls_nodup := hw.walls_nodup
  report_eq := hw.report_eq

theorem placeRobot (hw : Sound w) {r : Robot} (h : w.placeRobot r = .ok v) : Sound v := by
  obtain ⟨hg, hn, rfl⟩ := placeRobot_eq_ok_iff.1 h
  exact hw.withRobot (Position.within_iff.1 hg) hn

theorem placeWall (hw : Sound w) {p : Position} (h : w.placeWall p = .ok v) : Sound v := by
  obtain ⟨hg, hr, hn, rfl⟩ := placeWall_eq_ok_iff.1 h
  refine ⟨hw.side_pos, hw.side_le, hw.robot_onGrid, ?_, ?_, ?_, hw.report_eq⟩
  · intro r hr'
    simp only [List.mem_append, List.mem_singleton, not_or]
    exact ⟨hw.robot_notMem r hr', hr r hr'⟩
  · intro q hq
    rcases List.mem_append.1 hq with hq | hq
    · exact hw.wall_onGrid q hq
    · obtain rfl := List.mem_singleton.1 hq
      exact Position.within_iff.1 hg
  · -- the new wall is none of the old ones
    exact hw.walls_nodup.append (List.nodup_singleton p) (List.disjoint_singleton.2 hn)

theorem advance (hw : Sound w) {r : Robot} (h : w.advance = .ok (v, r)) : Sound v := by
  obtain ⟨r', _, rfl, hn, rfl⟩ := advance_eq_ok_iff.1 h
  -- the cell ahead is on the grid wherever the robot was
  exact hw.withRobot (Position.onGrid_step _ _ hw.side_pos) hn

theorem turn (hw : Sound w) {t : Turn} {r : Robot} (h : w.turn t = .ok (v, r)) : Sound v := by
  obtain ⟨r', hr, rfl, rfl⟩ := turn_eq_ok_iff.1 h
  exact hw.withRobot (hw.robot_onGrid r' hr) (hw.robot_notMem r' hr)

theorem report (hw : Sound w) {s : String} (h : w.report = .ok (v, s)) : Sound v := by
  obtain ⟨r, hr, rfl, rfl⟩ := report_eq_ok_iff.1 h
  refine ⟨hw.side_pos, hw.side_le, hw.robot_onGrid, hw.robot_notMem, hw.wall_onGrid,
    hw.walls_nodup, ?_⟩
  intro s hs
  exact ⟨r, hw.robot_onGrid r hr, (Option.some.inj hs).symm⟩

theorem stamped (hw : Sound w) (verb : String) (status : Status) (message : String) :
    Sound (w.stamped verb status message) :=
  ⟨hw.side_pos, hw.side_le, hw.robot_onGrid, hw.robot_notMem, hw.wall_onGrid, hw.walls_nodup,
    hw.report_eq⟩

theorem cleared (hw : Sound w) : Sound w.cleared := empty hw.side_pos hw.side_le

end Sound

/-! ### Every step, every world -/

/-- **A transition leaves the grid as it is, and the walls where they are**: new walls come behind
the others, and only clearing takes them away. -/
theorem kept_of_after? {w v : World} {t : Transition} (h : w.after? t = some v) :
    v.side = w.side ∧ (t ≠ .clear → w.walls <+: v.walls) := by
  cases t with
  | placeRobot r =>
      obtain ⟨_, _, rfl⟩ := placeRobot_eq_ok_iff.1 (after?_placeRobot.1 h)
      exact ⟨rfl, fun _ => List.prefix_rfl⟩
  | placeWall p =>
      obtain ⟨_, _, _, rfl⟩ := placeWall_eq_ok_iff.1 (after?_placeWall.1 h)
      exact ⟨rfl, fun _ => List.prefix_append _ _⟩
  | advance =>
      obtain ⟨r, h⟩ := after?_advance.1 h
      obtain ⟨_, _, _, _, rfl⟩ := advance_eq_ok_iff.1 h
      exact ⟨rfl, fun _ => List.prefix_rfl⟩
  | turn t =>
      obtain ⟨r, h⟩ := after?_turn.1 h
      obtain ⟨_, _, _, rfl⟩ := turn_eq_ok_iff.1 h
      exact ⟨rfl, fun _ => List.prefix_rfl⟩
  | report =>
      obtain ⟨s, h⟩ := after?_report.1 h
      obtain ⟨_, _, _, rfl⟩ := report_eq_ok_iff.1 h
      exact ⟨rfl, fun _ => List.prefix_rfl⟩
  | stamp verb status message =>
      obtain rfl := after?_stamp.1 h
      exact ⟨rfl, fun _ => List.prefix_rfl⟩
  | clear =>
      obtain rfl := after?_clear.1 h
      exact ⟨rfl, fun ht => absurd rfl ht⟩

/-- A transition keeps a world sound. -/
theorem Sound.after? {w v : World} {t : Transition} (hw : Sound w) (h : w.after? t = some v) :
    Sound v := by
  cases t with
  | placeRobot r => exact hw.placeRobot (after?_placeRobot.1 h)
  | placeWall p => exact hw.placeWall (after?_placeWall.1 h)
  | advance =>
      obtain ⟨r, h⟩ := after?_advance.1 h
      exact hw.advance h
  | turn t =>
      obtain ⟨r, h⟩ := after?_turn.1 h
      exact hw.turn h
  | report =>
      obtain ⟨s, h⟩ := after?_report.1 h
      exact hw.report h
  | stamp verb status message =>
      obtain rfl := after?_stamp.1 h
      exact hw.stamped verb status message
  | clear =>
      obtain rfl := after?_clear.1 h
      exact hw.cleared

/-- **Reachable worlds are sound**, and their grid has the side it had at the start. -/
theorem Reachable.sound {side : UInt32} {w : World} (h : Reachable side w) :
    w.side = side ∧ Sound w := by
  induction h with
  | initial => exact ⟨rfl, Sound.initial⟩
  | ofSide h => exact Sound.ofSide h
  | after _ h ih => exact ⟨(kept_of_after? h).1.trans ih.1, ih.2.after? h⟩

/-- A robot has left the grid at the north and re-entered it at the south. -/
def roundTheEdge : World := { side := 5, robot := some ⟨⟨1, 1⟩, .north⟩ }

theorem reachable_roundTheEdge : Reachable 5 roundTheEdge := by
  have hplaced : initial.after? (.placeRobot ⟨⟨5, 1⟩, .north⟩) =
      some { side := 5, robot := some ⟨⟨5, 1⟩, .north⟩ } := by decide
  have hmoved : ({ side := 5, robot := some ⟨⟨5, 1⟩, .north⟩ } : World).after? .advance =
      some roundTheEdge := by decide
  exact .after (.after .initial hplaced) hmoved

/-! ### Growing -/

/-- The worlds that transitions other than clearing lead to. -/
def Grows (w v : World) : Prop :=
  Relation.ReflTransGen (fun w v => ∃ t, t ≠ Transition.clear ∧ w.after? t = some v) w v

namespace Grows

variable {side : UInt32} {u w v : World}

theorem refl (w : World) : Grows w w := Relation.ReflTransGen.refl

theorem trans (huw : Grows u w) (hwv : Grows w v) : Grows u v := Relation.ReflTransGen.trans huw hwv

theorem of_after? {t : Transition} (ht : t ≠ .clear) (h : w.after? t = some v) : Grows w v :=
  Relation.ReflTransGen.single ⟨t, ht, h⟩

theorem reachable (h : Grows w v) (hw : Reachable side w) : Reachable side v := by
  induction h with
  | refl => exact hw
  | tail _ h ih =>
      obtain ⟨t, _, h⟩ := h
      exact ih.after h

theorem keeps_walls (h : Grows w v) : w.walls <+: v.walls := by
  induction h with
  | refl => exact List.prefix_rfl
  | tail _ h ih =>
      obtain ⟨t, ht, h⟩ := h
      exact ih.trans ((kept_of_after? h).2 ht)

end Grows

/-! ### Robot and walls have cells of their own -/

/-- The cells that hold something: that of the robot, if there is one, and those of the walls. -/
def occupied (w : World) : List Position := (w.robot.map Robot.position).toList ++ w.walls

theorem length_occupied (w : World) :
    w.occupied.length = w.walls.length + if w.robot.isSome then 1 else 0 := by
  cases h : w.robot with
  | none => simp [occupied, h]
  | some r => simp [occupied, h]

namespace Sound

variable {w : World}

theorem nodup_occupied (hw : Sound w) : w.occupied.Nodup := by
  cases h : w.robot with
  | none => simpa [occupied, h] using hw.walls_nodup
  | some r => simpa [occupied, h] using ⟨hw.robot_notMem r h, hw.walls_nodup⟩

theorem onGrid_of_mem_occupied (hw : Sound w) {p : Position} (hp : p ∈ w.occupied) :
    p.OnGrid w.side := by
  rcases List.mem_append.1 hp with hp | hp
  · obtain ⟨r, hr, rfl⟩ := Option.map_eq_some_iff.1 (Option.mem_toList.1 hp)
    exact hw.robot_onGrid r hr
  · exact hw.wall_onGrid p hp

/-- **Robot and walls fill no more cells than there are.** -/
theorem length_walls_le (hw : Sound w) :
    w.walls.length + (if w.robot.isSome then 1 else 0) ≤ w.side.toNat * w.side.toNat := by
  rw [← length_occupied]
  exact Position.length_le_of_onGrid hw.nodup_occupied fun p hp => hw.onGrid_of_mem_occupied hp

/-- The number of walls is told by four bytes. -/
theorem decode_length_walls (hw : Sound w) :
    LittleEndian.decode (LittleEndian.encode 4 w.walls.length) = w.walls.length := by
  have hcells : w.side.toNat * w.side.toNat ≤ 4096 * 4096 :=
    Nat.mul_le_mul hw.side_le hw.side_le
  -- 4096 * 4096 cells are fewer than the 2 ^ 32 numbers of four bytes
  have hlen := hw.length_walls_le
  have hcap : LittleEndian.capacity 4 = 4294967296 := rfl
  apply LittleEndian.decode_encode
  omega

end Sound

end World

end TorusRobot
