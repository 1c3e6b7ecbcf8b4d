/-
**Walks over the torus.**

A step is a displacement by one cell, and displacements add up.  So where a walk ends is known from
how many steps it makes in each of the four directions: the steps to the north less those to the
south are the rows it has gone, those to the east less those to the west the columns, and both count
modulo the side.  In which order the steps are made does not matter.  No coordinate ever leaves the
grid by more than one, so that nothing overflows on the way.

Main definitions:

* `TorusRobot.Facing.net` — how many rows and columns a list of steps leads away.

Main results:

* `TorusRobot.Position.walk_eq_displaced` — a walk is the displacement by all its steps;
* `TorusRobot.Position.walk_perm` — the steps of a walk may be made in any order;
* `TorusRobot.Position.walks_are_translations` — **where walks lead**.
-/
import TorusRobot.Proofs.Grid.Torus

set_option relaxedAutoImplicit false
set_option autoImplicit false

namespace TorusRobot

/-! ### Steps taken together -/

namespace Facing

/-- How many rows to the north and columns to the east a list of steps leads away, if edges are
left out of account. -/
def net (fs : List Facing) : Int × Int :=
  (fs.count north - fs.count south, fs.count east - fs.count west)

@[simp] theorem net_nil : net [] = (0, 0) := rfl

theorem net_cons (f : Facing) (fs : List Facing) :
    net (f :: fs) = (f.offset.1 + (net fs).1, f.offset.2 + (net fs).2) := by
  cases f
  all_goals
    simp [net, offset]
    omega

end Facing

theorem Axis.toNat_place_add {side : UInt32} (i d : Int) (h : 1 ≤ side.toNat) :
    ((Axis.place (i + d) side).toNat : Int) = 1 + (i - 1 + d) % side.toNat := by
  rw [Axis.toNat_place _ h, Int.add_comm 1, show i + d - 1 = i - 1 + d by omega]

namespace Position

variable {side : UInt32} {p : Position}

theorem onGrid_displaced (p : Position) (d : Int × Int) (h : 1 ≤ side.toNat) :
    (p.displaced d side).OnGrid side :=
  ⟨Axis.place_bounds _ h, Axis.place_bounds _ h⟩

/-- Two displacements lead to the same cell if they are congruent, and not otherwise. -/
theorem displaced_eq_displaced_iff (p : Position) (d e : Int × Int) (h : 1 ≤ side.toNat) :
    p.displaced d side = p.displaced e side ↔
      d.1 ≡ e.1 [ZMOD side.toNat] ∧ d.2 ≡ e.2 [ZMOD side.toNat] := by
  rw [displaced, displaced, mk.injEq, Axis.place_eq_place_iff h, Axis.place_eq_place_iff h]
  constructor
  · rintro ⟨hrow, hcol⟩
    exact ⟨hrow.add_left_cancel' _, hcol.add_left_cancel' _⟩
  · rintro ⟨hrow, hcol⟩
    exact ⟨hrow.add_left _, hcol.add_left _⟩

/-- **A walk is the displacement by all its steps.** -/
theorem walk_eq_displaced (hp : p.OnGrid side) (fs : List Facing) :
    p.walk side fs = p.displaced (Facing.net fs) side := by
  have h : 1 ≤ side.toNat := hp.1.1.trans hp.1.2
  induction fs generalizing p with
  | nil => exact (displaced_zero hp).symm
  | cons f fs ih =>
      rw [walk_cons, ih (onGrid_step p f h), step_eq_displaced p f h, displaced_displaced p _ _ h,
        Facing.net_cons]

/-- A walk stays on the grid. -/
theorem onGrid_walk (hp : p.OnGrid side) (fs : List Facing) : (p.walk side fs).OnGrid side := by
  rw [walk_eq_displaced hp]
  exact onGrid_displaced p _ (hp.1.1.trans hp.1.2)

/-- Two steps may change places. -/
theorem step_comm (p : Position) (f g : Facing) (h : 1 ≤ side.toNat) :
    (p.step f side).step g side = (p.step g side).step f side := by
  rw [step_eq_displaced p f h, step_eq_displaced p g h, step_eq_displaced _ g h,
    step_eq_displaced _ f h, displaced_displaced p _ _ h, displaced_displaced p _ _ h,
    Int.add_comm f.offset.1, Int.add_comm f.offset.2]

/-- The steps of a walk may be made in any order. -/
theorem walk_perm (p : Position) {fs gs : List Facing} (h : 1 ≤ side.toNat) (hperm : fs.Perm gs) :
    p.walk side fs = p.walk side gs :=
  hperm.foldl_eq' (fun f _ g _ q => step_comm q f g h) p

/-- A walk straight ahead. -/
theorem walk_replicate (hp : p.OnGrid side) (f : Facing) (n : Nat) :
    p.walk side (List.replicate n f) = p.afar f side n := by
  have h : 1 ≤ side.toNat := hp.1.1.trans hp.1.2
  induction n generalizing p with
  | zero => exact (afar_zero f hp).symm
  | succ n ih => rw [List.replicate_succ, walk_cons, ih (onGrid_step p f h), afar_step p f h]

/-! ### Walks -/

/-- **Where walks lead.**  A walk from a cell of the grid ends as many rows and columns away as its
steps make together, counted modulo the side; it stays on the grid, and nothing overflows.  So two
walks end on the same cell exactly if their steps together are congruent modulo the side.  From any
position at all the steps may be made in any order.  A step is taken back by one in the other
direction, as many steps in one direction as the side is long lead back to the start, and a single
step leads onto the grid from wherever it is made, again without overflow. -/
theorem walks_are_translations {side : UInt32} (h : 1 ≤ side.toNat) :
    (∀ (p : Position) (fs : List Facing), p.OnGrid side →
      ((p.walk side fs).row.toNat : Int) =
        1 + (p.row.toNat - 1 + fs.count .north - fs.count .south) % side.toNat ∧
      ((p.walk side fs).col.toNat : Int) =
        1 + (p.col.toNat - 1 + fs.count .east - fs.count .west) % side.toNat ∧
      (∀ gs, gs <+: fs → (p.walk side gs).OnGrid side) ∧
      p.tryWalk side fs = .ok (p.walk side fs)) ∧
    (∀ (p : Position) (fs gs : List Facing), p.OnGrid side →
      (p.walk side fs = p.walk side gs ↔
        (Facing.net fs).1 ≡ (Facing.net gs).1 [ZMOD side.toNat] ∧
        (Facing.net fs).2 ≡ (Facing.net gs).2 [ZMOD side.toNat])) ∧
    (∀ (p : Position) (fs gs : List Facing), fs.Perm gs → p.walk side fs = p.walk side gs) ∧
    (∀ (p : Position) (f : Facing), p.OnGrid side →
      (p.step f side).step f.left.left side = p ∧
      p.walk side (List.replicate side.toNat f) = p) ∧
    ∀ (p : Position) (f : Facing),
      (p.step f side).OnGrid side ∧ p.tryStep f side = .ok (p.step f side) := by
  refine ⟨?_, ?_, fun p fs gs => walk_perm p h, ?_, ?_⟩
  · intro p fs hp
    refine ⟨?_, ?_, fun gs _ => onGrid_walk hp gs, p.tryWalk_eq side fs⟩
    · rw [walk_eq_displaced hp, displaced, Axis.toNat_place_add _ _ h, Facing.net,
        Int.add_sub_assoc]
    · rw [walk_eq_displaced hp, displaced, Axis.toNat_place_add _ _ h, Facing.net,
        Int.add_sub_assoc]
  · intro p fs gs hp
    rw [walk_eq_displaced hp, walk_eq_displaced hp]
    exact displaced_eq_displaced_iff p _ _ h
  · intro p f hp
    exact ⟨step_step_back f hp, (walk_replicate hp f _).trans (afar_side f hp)⟩
  · intro p f
    exact ⟨onGrid_step p f h, p.tryStep_eq f side⟩

/-- The hypotheses of `TorusRobot.Position.walks_are_translations` are met on the largest grid that
a word can measure, by a walk from its northwestern corner around both edges. -/
theorem walks_are_translations_aroundBothEdges :
    1 ≤ (4294967295 : UInt32).toNat ∧ OnGrid ⟨4294967295, 1⟩ 4294967295 ∧
    (((walk ⟨4294967295, 1⟩ 4294967295 [.north, .west, .south, .west, .north, .east]).row.toNat :
        Int) = 1 ∧
      ((walk ⟨4294967295, 1⟩ 4294967295 [.north, .west, .south, .west, .north, .east]).col.toNat :
        Int) = 4294967295) ∧
    (walk ⟨4294967295, 1⟩ 4294967295 [.north, .west]).OnGrid 4294967295 ∧
    tryWalk ⟨4294967295, 1⟩ 4294967295 [.north, .west, .south, .west, .north, .east] =
      .ok (walk ⟨4294967295, 1⟩ 4294967295 [.north, .west, .south, .west, .north, .east]) ∧
    walk ⟨4294967295, 1⟩ 4294967295 [.north, .west, .south, .west, .north, .east] =
      walk ⟨4294967295, 1⟩ 4294967295 [.north, .west] ∧
    walk ⟨0, 7⟩ 4294967295 [.north, .west] = walk ⟨0, 7⟩ 4294967295 [.west, .north] ∧
    walk ⟨4294967295, 1⟩ 4294967295 (List.replicate 4294967295 .east) = ⟨4294967295, 1⟩ ∧
    (step ⟨0, 7⟩ .south 4294967295).OnGrid 4294967295 := by
  have hside : 1 ≤ (4294967295 : UInt32).toNat := by decide
  have hcorner : OnGrid ⟨4294967295, 1⟩ 4294967295 := ⟨by decide, by decide⟩
  obtain ⟨hwalk, hnet, hperm, hback, hstep⟩ := walks_are_translations hside
  obtain ⟨hrow, hcol, honGrid, hexact⟩ :=
    hwalk ⟨4294967295, 1⟩ [.north, .west, .south, .west, .north, .east] hcorner
  refine ⟨hside, hcorner, ⟨hrow.trans (by decide), hcol.trans (by decide)⟩, ?_, hexact, ?_, ?_,
    ?_, ?_⟩
  · exact honGrid _ ⟨[.south, .west, .north, .east], rfl⟩
  · exact (hnet _ _ _ hcorner).2 ⟨by decide, by decide⟩
  · exact hperm _ _ _ (.swap _ _ _)
  · exact (hback _ .east hcorner).2
  · exact (hstep _ .south).1

end Position

end TorusRobot
