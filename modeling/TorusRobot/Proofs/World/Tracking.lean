/-
**Digests follow the robot.**

A motion changes one thing about the robot: its row, its column or its facing.  In the description
of the world this is one byte, or two bytes in a row where a coordinate has passed a multiple of
256, and the bytes behind them stay as they are.  That is little enough for the hash not to miss it.
So a turn always changes the digest, and so does a move that succeeds, unless the grid has a single
cell and the robot comes back to where it was.

Main definitions:

* `TorusRobot.Robot.DiffersInOne` — robots that differ in row, column or facing alone.

Main results:

* `TorusRobot.World.digest_ne_of_differsInOne` — **a digest tells such robots apart**;
* `TorusRobot.Robot.differsInOne_turned`, `TorusRobot.Robot.differsInOne_ahead` — a motion changes
  one thing;
* `TorusRobot.World.digests_follow_the_robot` — **no motion escapes the digest**.
-/
import TorusRobot.Proofs.Recording.Description
import TorusRobot.Proofs.Session.Worlds
import TorusRobot.Proofs.World.Driving

set_option relaxedAutoImplicit false
set_option autoImplicit false

namespace TorusRobot

/-! ### Robots that differ in one thing -/

/-- Robots that differ in the row, in the column or in the facing, and in nothing else. -/
inductive Robot.DiffersInOne : Robot → Robot → Prop where
  | row {row row' col : UInt32} {facing : Facing} (h : row ≠ row') :
      DiffersInOne ⟨⟨row, col⟩, facing⟩ ⟨⟨row', col⟩, facing⟩
  | col {row col col' : UInt32} {facing : Facing} (h : col ≠ col') :
      DiffersInOne ⟨⟨row, col⟩, facing⟩ ⟨⟨row, col'⟩, facing⟩
  | facing {p : Position} {facing facing' : Facing} (h : facing ≠ facing') :
      DiffersInOne ⟨p, facing⟩ ⟨p, facing'⟩

/-- Two bytes are enough for the coordinates of a cell. -/
theorem Position.OnGrid.small {p : Position} {side : UInt32} (h : p.OnGrid side)
    (hside : side.toNat ≤ 4096) : p.row.toNat < 2 ^ 16 ∧ p.col.toNat < 2 ^ 16 := by
  have hrow := h.1.2
  have hcol := h.2.2
  omega

/-- How a hash takes in a robot: row, column and facing in turn. -/
theorem Robot.fnvFrom_bytes? (hash : UInt64) (r : Robot) :
    fnvFrom hash (bytes? (some r)) =
      fnvStep (fnvFrom (fnvFrom (fnvStep hash 1) (LittleEndian.word32 r.position.row))
        (LittleEndian.word32 r.position.col)) (UInt8.ofNat r.facing.index.val) := by
  simp only [bytes?, Position.bytes, fnvFrom_cons, fnvFrom_append, fnvFrom_nil]

/-- A hash that takes in one robot or another one comes out otherwise, if they differ in one
thing. -/
theorem Robot.DiffersInOne.fnvFrom_ne {r s : Robot} {side : UInt32} (h : DiffersInOne r s)
    (hside : side.toNat ≤ 4096) (hr : r.position.OnGrid side) (hs : s.position.OnGrid side)
    (hash : UInt64) : fnvFrom hash (bytes? (some r)) ≠ fnvFrom hash (bytes? (some s)) := by
  obtain ⟨hrow, hcol⟩ := hr.small hside
  obtain ⟨hrow', hcol'⟩ := hs.small hside
  rw [fnvFrom_bytes?, fnvFrom_bytes?]
  intro e
  cases h with
  | row hne =>
      -- the bytes behind the row are the same
      have erow := fnvFrom_injective (fnvStep_left_injective e)
      exact hne (fnvFrom_word32_injective hrow hrow' erow)
  | col hne => exact hne (fnvFrom_word32_injective hcol hcol' (fnvStep_left_injective e))
  | facing hne => exact hne (Facing.ofNat_index_injective (fnvStep_right_injective e))

namespace World

variable {v w : World}

/-- The digest of a world with a robot: what is in front of the robot, the robot, and what is behind
it. -/
theorem digest_of_robot {r : Robot} (hr : w.robot = some r) :
    w.digest = fnvFrom (fnvFrom (fnvFrom fnvOffset (LittleEndian.word32 w.side))
      (Robot.bytes? (some r))) (wallBytes w.walls ++ reportBytes? w.lastReport) := by
  simp only [digest, description, hr, fnv1a_eq_fnvFrom, fnvFrom_append]

/-- **A digest tells robots apart that differ in one thing**, if all else is the same. -/
theorem digest_ne_of_differsInOne {r s : Robot} (hv : Sound v) (hw : Sound w)
    (hs : v.robot = some s) (hr : w.robot = some r) (hside : v.side = w.side)
    (hwalls : v.walls = w.walls) (hreport : v.lastReport = w.lastReport)
    (h : r.DiffersInOne s) : v.digest ≠ w.digest := by
  have honGrid := hv.robot_onGrid s hs
  rw [hside] at honGrid
  have hne := h.fnvFrom_ne hw.side_le (hw.robot_onGrid r hr) honGrid
    (fnvFrom fnvOffset (LittleEndian.word32 w.side))
  rw [digest_of_robot hs, digest_of_robot hr, hside, hwalls, hreport]
  exact fun e => hne (fnvFrom_injective e).symm

end World

/-! ### Motions -/

theorem Robot.differsInOne_turned (r : Robot) (t : Turn) : DiffersInOne r (r.turned t) := by
  apply DiffersInOne.facing
  cases t <;> cases r.facing <;> decide

/-- On an axis with two places a step leads to another one. -/
theorem Axis.place_add_ne {n side : UInt32} {d : Int} (hside : 2 ≤ side.toNat) (hd : |d| = 1) :
    place (n.toNat + d) side ≠ n := by
  intro e
  have hmod := toNat_place_modEq (n.toNat + d) (by omega : 1 ≤ side.toNat)
  rw [e] at hmod
  -- the place is the old one only if the side divides the step
  have hdvd : (side.toNat : Int) ∣ d := by simpa only [add_sub_cancel_left] using hmod.dvd
  have hzero := Int.eq_zero_of_abs_lt_dvd hdvd (by omega)
  rw [hzero] at hd
  cases hd

theorem Robot.differsInOne_ahead {r : Robot} {side : UInt32} (hr : r.position.OnGrid side)
    (hside : 2 ≤ side.toNat) : DiffersInOne r (r.ahead side) := by
  obtain ⟨⟨row, col⟩, facing⟩ := r
  have hrow := Axis.place_toNat hr.1
  have hcol := Axis.place_toNat hr.2
  have hstep (n : UInt32) {d : Int} (hd : |d| = 1) : n ≠ Axis.place (n.toNat + d) side :=
    (Axis.place_add_ne hside hd).symm
  rw [ahead, Position.step_eq_displaced _ _ (by omega), Position.displaced]
  cases facing with
  | north =>
      simp only [Facing.offset, Int.add_zero, hcol]
      exact .row (hstep row rfl)
  | east =>
      simp only [Facing.offset, Int.add_zero, hrow]
      exact .col (hstep col rfl)
  | south =>
      simp only [Facing.offset, Int.add_zero, hcol]
      exact .row (hstep row rfl)
  | west =>
      simp only [Facing.offset, Int.add_zero, hrow]
      exact .col (hstep col rfl)

namespace World

/-- **No motion escapes the digest.**  Two reachable worlds on one grid have the same walls, placed
in the same order, and the same last report, and their robots differ in the row, in the column or in
the facing, and in nothing else; then they have different digests.  So from any reachable world with
a robot a turn leads to another digest, and a move that succeeds does so where the grid has more
than one cell. -/
theorem digests_follow_the_robot {side : UInt32} {w : World} {r : Robot} (h : Reachable side w)
    (hr : w.robot = some r) :
    (∀ (v : World) (s : Robot), Reachable side v → v.robot = some s → v.walls = w.walls →
      v.lastReport = w.lastReport → r.DiffersInOne s → v.digest ≠ w.digest) ∧
    (∀ c : Command, c.verb = "LEFT" ∨ c.verb = "RIGHT" →
      ∃ o, (w.apply c).1 = some o ∧ o.status = .ok ∧ (w.apply c).2.digest ≠ w.digest) ∧
    ∀ (c : Command) (o : Outcome), c.verb = "MOVE" → (w.apply c).1 = some o → o.status = .ok →
      2 ≤ side.toNat → (w.apply c).2.digest ≠ w.digest := by
  obtain ⟨hside, hw⟩ := h.sound
  have hdiffers (v : World) (s : Robot) (hv : Reachable side v) (hs : v.robot = some s)
      (hwalls : v.walls = w.walls) (hreport : v.lastReport = w.lastReport)
      (hrs : r.DiffersInOne s) : v.digest ≠ w.digest :=
    digest_ne_of_differsInOne hv.sound.2 hw hs hr (hv.sound.1.trans hside.symm) hwalls hreport hrs
  -- a command leads to a reachable world, and a motion changes one thing there
  have hreach (c : Command) : Reachable side (w.apply c).2 := (grows_apply w c).reachable h
  have hturn (t : Turn) (c : Command) (hc : c.verb = (Verb.ofTurn t).name) :
      ∃ o, (w.apply c).1 = some o ∧ o.status = .ok ∧ (w.apply c).2.digest ≠ w.digest := by
    obtain ⟨stamp, happly⟩ := apply_turn hc hr
    have hv := hreach c
    rw [happly] at hv ⊢
    exact ⟨_, rfl, rfl, hdiffers _ _ hv rfl rfl rfl (r.differsInOne_turned t)⟩
  refine ⟨hdiffers, ?_, ?_⟩
  · rintro c (hc | hc)
    · exact hturn .left c hc
    · exact hturn .right c hc
  · intro c o hc ho hok hcells
    have hv := hreach c
    by_cases hwall : (r.ahead w.side).position ∈ w.walls
    · obtain ⟨stamp, happly⟩ := apply_move_of_wall hc hr hwall
      rw [happly] at ho
      obtain rfl := Option.some.inj ho
      cases hok
    · obtain ⟨stamp, happly⟩ := apply_move_of_free hc hr hwall
      have hahead := Robot.differsInOne_ahead (hw.robot_onGrid r hr) (by rw [hside]; exact hcells)
      rw [happly] at hv ⊢
      exact hdiffers _ _ hv rfl rfl rfl hahead

/-- A robot in the last row that one byte can count. -/
def lastByteRow : World := { side := 4096, robot := some ⟨⟨255, 7⟩, .north⟩ }

theorem reachable_lastByteRow : Reachable 4096 lastByteRow := by
  have hplaced : ({ side := 4096 } : World).after? (.placeRobot ⟨⟨255, 7⟩, .north⟩) =
      some lastByteRow := by decide
  exact .after (.ofSide rfl) hplaced

/-- The hypotheses of `TorusRobot.World.digests_follow_the_robot` are met where a move changes two
bytes of the row, and where a robot turns. -/
theorem digests_follow_the_robot_lastByteRow :
    ({ lastByteRow with robot := some ⟨⟨256, 7⟩, .north⟩ } : World).digest ≠ lastByteRow.digest ∧
    (∃ o, (lastByteRow.apply ⟨"LEFT", [], "left"⟩).1 = some o ∧ o.status = .ok ∧
      (lastByteRow.apply ⟨"LEFT", [], "left"⟩).2.digest ≠ lastByteRow.digest) ∧
    (lastByteRow.apply ⟨"MOVE", [], "move"⟩).2.digest ≠ lastByteRow.digest := by
  obtain ⟨hdiffers, hturn, hmove⟩ := digests_follow_the_robot reachable_lastByteRow rfl
  have hadvanced : lastByteRow.after? .advance =
      some { lastByteRow with robot := some ⟨⟨256, 7⟩, .north⟩ } := by decide
  refine ⟨?_, hturn _ (.inl rfl), ?_⟩
  · exact hdiffers _ _ (reachable_lastByteRow.after hadvanced) rfl rfl rfl (.row (by decide))
  · obtain ⟨stamp, happly⟩ := apply_move_of_free (c := ⟨"MOVE", [], "move"⟩) rfl
      (rfl : lastByteRow.robot = some ⟨⟨255, 7⟩, .north⟩) (by decide)
    exact hmove _ _ rfl (by rw [happly]) rfl (by decide)

end World

end TorusRobot
