/-
**Driving.**

Once the robot is on the grid, moves and turns are all that takes it anywhere, and neither the
walls nor the last report change on the way.  Moves alone take it around the torus until it stands
before a wall, and there it stays.  Any drive that succeeds can be driven back: the robot turns
about, does the same in the reverse order with left and right exchanged, and turns about again.

Main definitions:

* `TorusRobot.Robot.afar` — the robot so many cells further on;
* `TorusRobot.World.replies` — the status and the message of each of a list of commands;
* `TorusRobot.Drives` — a drive that no wall stands in the way of;
* `TorusRobot.Verb.homeward` — how a drive is driven back.

Main results:

* `TorusRobot.World.moves_stop_before_walls` — **moves lead to the first wall and no further**;
* `TorusRobot.Drives.back`, `TorusRobot.Drives.homeward` — what was driven can be driven back;
* `TorusRobot.World.follows_of_drives`, `TorusRobot.World.drives_of_allSucceed` — the drives that
  commands make;
* `TorusRobot.World.drives_lead_back` — **commands that all succeed can be undone by commands**.
-/
import Mathlib.Order.Bounds.Defs
import TorusRobot.Proofs.World.Effects

set_option relaxedAutoImplicit false
set_option autoImplicit false

namespace TorusRobot

/-! ### The robot on its way -/

namespace Robot

/-- The robot `j` cells further on, on a grid of the given side. -/
def afar (r : Robot) (side : UInt32) (j : Nat) : Robot :=
  { r with position := r.position.afar r.facing side j }

/-- The robot turned about. -/
def about (r : Robot) : Robot := (r.turned .left).turned .left

theorem about_about (r : Robot) : r.about.about = r := by
  obtain ⟨p, f⟩ := r
  cases f <;> rfl

variable {r : Robot} {side : UInt32}

theorem afar_zero (h : r.position.OnGrid side) : r.afar side 0 = r := by
  rw [afar, Position.afar_zero r.facing h]

theorem afar_side (h : r.position.OnGrid side) : r.afar side side.toNat = r := by
  rw [afar, Position.afar_side r.facing h]

theorem afar_one (r : Robot) (h : 1 ≤ side.toNat) : r.afar side 1 = r.ahead side := by
  rw [afar, Position.afar_one r.position r.facing h, ahead]

/-- What lies ahead of the robot one cell further on lies ahead of it now, one cell farther. -/
theorem afar_ahead (r : Robot) (h : 1 ≤ side.toNat) (j : Nat) :
    (r.ahead side).afar side j = r.afar side (j + 1) := by
  rw [afar, facing_ahead, ahead, Position.afar_step r.position r.facing h, afar]

theorem ahead_afar (r : Robot) (h : 1 ≤ side.toNat) (j : Nat) :
    (r.afar side j).ahead side = r.afar side (j + 1) := by
  rw [ahead, afar, Position.step_afar r.position r.facing h, afar]

/-- Turned about, the robot goes back where it came from. -/
theorem ahead_about_ahead (h : r.position.OnGrid side) :
    (r.ahead side).about.ahead side = r.about := by
  have hback := Position.step_step_back r.facing h
  simp only [about, ahead, turned, Turn.apply, hback]

end Robot

namespace World

variable {w : World} {r : Robot} {c : Command} {cs ds : List Command}

/-! ### One command -/

theorem apply_of_verb {verb : Verb} (h : c.verb = verb.name) :
    w.apply c = (some ((w.judge c).1.outcome c.raw),
      (w.judge c).2.stamped c.verb (w.judge c).1.status (w.judge c).1.message) :=
  apply_of_not_isEmpty (isEmpty_of_verb h)

theorem judge_move (h : c.verb = Verb.move.name) : w.judge c = w.judgeMove := by
  rw [judge, Verb.ofName?_of_eq .move h]

theorem judge_turn {t : Turn} (h : c.verb = (Verb.ofTurn t).name) :
    w.judge c = w.judgeTurn t := by
  rw [judge, Verb.ofName?_of_eq (.ofTurn t) h]
  cases t <;> rfl

/-- A move with no wall ahead. -/
theorem apply_move_of_free (hc : c.verb = Verb.move.name) (hr : w.robot = some r)
    (hw : (r.ahead w.side).position ∉ w.walls) :
    ∃ stamp, w.apply c = (some ((Verdict.moved (r.ahead w.side).position).outcome c.raw),
      { w with robot := some (r.ahead w.side), stamp := stamp }) := by
  rw [apply_of_verb hc, judge_move hc, judgeMove_of_free hr hw]
  exact ⟨_, rfl⟩

/-- A move with a wall ahead. -/
theorem apply_move_of_wall (hc : c.verb = Verb.move.name) (hr : w.robot = some r)
    (hw : (r.ahead w.side).position ∈ w.walls) :
    ∃ stamp, w.apply c = (some ((Verdict.blocked (r.ahead w.side).position).outcome c.raw),
      { w with stamp := stamp }) := by
  rw [apply_of_verb hc, judge_move hc, judgeMove_of_wall hr hw]
  exact ⟨_, rfl⟩

theorem apply_turn {t : Turn} (hc : c.verb = (Verb.ofTurn t).name) (hr : w.robot = some r) :
    ∃ stamp, w.apply c = (some ((Verdict.turned (r.turned t).facing).outcome c.raw),
      { w with robot := some (r.turned t), stamp := stamp }) := by
  rw [apply_of_verb hc, judge_turn hc, judgeTurn_of_robot t hr]
  exact ⟨_, rfl⟩

/-! ### Moves alone -/

/-- The status and the message of each of a list of commands. -/
def replies (w : World) (cs : List Command) : List (Option (Status × String)) :=
  (w.outcomes cs).map (Option.map fun o => (o.status, o.message))

@[simp] theorem replies_nil (w : World) : w.replies [] = [] := rfl

theorem replies_cons (w : World) (c : Command) (cs : List Command) :
    w.replies (c :: cs) =
      (w.apply c).1.map (fun o => (o.status, o.message)) :: (w.apply c).2.replies cs := rfl

theorem replies_append (w : World) (cs ds : List Command) :
    w.replies (cs ++ ds) = w.replies cs ++ (w.applyAll cs).replies ds := by
  simp only [replies, outcomes_append, List.map_append]

/-- What a move is told that leads to `p`. -/
def movedReply (p : Position) : Option (Status × String) := some (.ok, "OK: MOVED " ++ p.text)

/-- What a move is told when a wall on `p` is in its way. -/
def blockedReply (p : Position) : Option (Status × String) :=
  some (.blocked, "ERROR: BLOCKED " ++ p.text)

/-- As long as there is no wall, each move leads one cell further. -/
theorem moves_of_free (h : 1 ≤ w.side.toNat) (hr : w.robot = some r)
    (hg : r.position.OnGrid w.side) (hcs : ∀ c ∈ cs, c.verb = Verb.move.name)
    (hfree : ∀ j, 1 ≤ j → j ≤ cs.length → (r.afar w.side j).position ∉ w.walls) :
    w.replies cs =
        (List.range cs.length).map (fun i => movedReply (r.afar w.side (i + 1)).position) ∧
      ∃ stamp, w.applyAll cs =
        { w with robot := some (r.afar w.side cs.length), stamp := stamp } := by
  induction cs generalizing w r with
  | nil =>
      refine ⟨rfl, w.stamp, ?_⟩
      rw [applyAll_nil, List.length_nil, Robot.afar_zero hg, ← hr]
  | cons c cs ih =>
      obtain ⟨hc, hcs⟩ := List.forall_mem_cons.1 hcs
      have hahead : (r.ahead w.side).position ∉ w.walls := by
        rw [← Robot.afar_one r h]
        exact hfree 1 (Nat.le_refl 1) (by simp)
      obtain ⟨stamp, happ⟩ := apply_move_of_free hc hr hahead
      -- the cells behind the first one are those ahead of the robot when it stands there
      have hrest (j : Nat) (hj : 1 ≤ j) (hlen : j ≤ cs.length) :
          ((r.ahead w.side).afar w.side j).position ∉ w.walls := by
        rw [Robot.afar_ahead r h]
        exact hfree (j + 1) (by omega) (by simpa using hlen)
      obtain ⟨hreplies, stamp', hworld⟩ := ih
        (w := { w with robot := some (r.ahead w.side), stamp := stamp }) h rfl
        (Position.onGrid_step r.position r.facing h) hcs hrest
      constructor
      · rw [replies_cons, happ, hreplies, List.length_cons, List.range_succ_eq_map, List.map_cons,
          List.map_map, Robot.afar_one r h]
        simp only [Robot.afar_ahead r h]
        rfl
      · rw [applyAll_cons, happ, hworld, List.length_cons, Robot.afar_ahead r h]
        exact ⟨stamp', rfl⟩

/-- Before a wall, no move leads anywhere. -/
theorem moves_of_wall (hr : w.robot = some r) (hcs : ∀ c ∈ cs, c.verb = Verb.move.name)
    (hw : (r.ahead w.side).position ∈ w.walls) :
    w.replies cs = List.replicate cs.length (blockedReply (r.ahead w.side).position) ∧
      ∃ stamp, w.applyAll cs = { w with stamp := stamp } := by
  induction cs generalizing w with
  | nil => exact ⟨rfl, w.stamp, rfl⟩
  | cons c cs ih =>
      obtain ⟨hc, hcs⟩ := List.forall_mem_cons.1 hcs
      obtain ⟨stamp, happ⟩ := apply_move_of_wall hc hr hw
      obtain ⟨hreplies, stamp', hworld⟩ := ih (w := { w with stamp := stamp }) hr hcs hw
      constructor
      · rw [replies_cons, happ, hreplies, List.length_cons, List.replicate_succ]
        rfl
      · rw [applyAll_cons, happ, hworld]
        exact ⟨stamp', rfl⟩

/-- More moves than there are free cells lead to the last of them, and the others find the wall. -/
theorem moves_to_wall {d : Nat} (h : 1 ≤ w.side.toNat) (hr : w.robot = some r)
    (hg : r.position.OnGrid w.side) (hcs : ∀ c ∈ cs, c.verb = Verb.move.name)
    (hds : ∀ c ∈ ds, c.verb = Verb.move.name)
    (hd : IsLeast {j | 1 ≤ j ∧ (r.afar w.side j).position ∈ w.walls} d)
    (hlen : cs.length = d - 1) :
    w.replies (cs ++ ds) =
        (List.range cs.length).map (fun i => movedReply (r.afar w.side (i + 1)).position) ++
          List.replicate ds.length (blockedReply (r.afar w.side d).position) ∧
      ∃ stamp, w.applyAll (cs ++ ds) =
        { w with robot := some (r.afar w.side cs.length), stamp := stamp } := by
  obtain ⟨⟨hpos, hwall⟩, hleast⟩ := hd
  have hfree (j : Nat) (hj : 1 ≤ j) (hle : j ≤ cs.length) :
      (r.afar w.side j).position ∉ w.walls := by
    intro hmem
    have hdj := hleast ⟨hj, hmem⟩
    omega
  obtain ⟨hmoved, stamp, hworld⟩ := moves_of_free h hr hg hcs hfree
  -- behind the free cells the robot stands before the wall
  have hahead : (r.afar w.side cs.length).ahead w.side = r.afar w.side d := by
    rw [Robot.ahead_afar r h, hlen, Nat.sub_add_cancel hpos]
  obtain ⟨hblocked, stamp', hstays⟩ := moves_of_wall
    (w := { w with robot := some (r.afar w.side cs.length), stamp := stamp }) rfl hds
    (by rw [hahead]; exact hwall)
  rw [replies_append, applyAll_append, hmoved, hworld, hblocked, hstays, hahead]
  exact ⟨rfl, stamp', rfl⟩

/-- **Moves lead to the first wall and no further.**  In a reachable world the robot is given
moves, any number of them.  If the first wall on its way is on the cell `d` steps ahead, the moves
lead it one cell further each until it stands before that wall, and all others find the wall in
their way.  If there is no wall on its way, each of the moves leads it one cell further, and as
many moves as the side of the grid is long lead it back to its cell.  All else stays but for the
stamp. -/
theorem moves_stop_before_walls {side : UInt32} {w : World} {r : Robot} (h : Reachable side w)
    (hr : w.robot = some r) {cs : List Command} (hcs : ∀ c ∈ cs, c.verb = "MOVE") :
    (∀ d, IsLeast {j | 1 ≤ j ∧ (r.afar side j).position ∈ w.walls} d →
      w.replies cs =
          (List.range (min cs.length (d - 1))).map
              (fun i => some (.ok, "OK: MOVED " ++ (r.afar side (i + 1)).position.text)) ++
            List.replicate (cs.length - (d - 1))
              (some (.blocked, "ERROR: BLOCKED " ++ (r.afar side d).position.text)) ∧
        ∃ stamp, w.applyAll cs =
          { w with robot := some (r.afar side (min cs.length (d - 1))), stamp := stamp }) ∧
    ((∀ j, 1 ≤ j → (r.afar side j).position ∉ w.walls) →
      w.replies cs =
          (List.range cs.length).map
            (fun i => some (.ok, "OK: MOVED " ++ (r.afar side (i + 1)).position.text)) ∧
        (∃ stamp, w.applyAll cs =
          { w with robot := some (r.afar side cs.length), stamp := stamp }) ∧
        (cs.length = side.toNat → ∃ stamp, w.applyAll cs = { w with stamp := stamp })) := by
  obtain ⟨rfl, hsound⟩ := h.sound
  have hpos := hsound.side_pos
  have hg := hsound.robot_onGrid r hr
  constructor
  · intro d hd
    rcases Nat.le_total cs.length (d - 1) with hle | hle
    · -- the moves do not suffice to reach the wall
      have hfree := moves_of_free hpos hr hg hcs fun j hj hlen hmem => by
        have hdj := hd.2 ⟨hj, hmem⟩
        omega
      rw [Nat.min_eq_left hle, Nat.sub_eq_zero_of_le hle, List.replicate_zero, List.append_nil]
      exact hfree
    · have hlen : (cs.take (d - 1)).length = d - 1 := by simp [hle]
      have htake : ∀ c ∈ cs.take (d - 1), c.verb = "MOVE" :=
        fun c hc => hcs c (List.mem_of_mem_take hc)
      have hdrop : ∀ c ∈ cs.drop (d - 1), c.verb = "MOVE" :=
        fun c hc => hcs c (List.mem_of_mem_drop hc)
      have hwall := moves_to_wall hpos hr hg htake hdrop hd hlen
      rw [List.take_append_drop, hlen, List.length_drop] at hwall
      rw [Nat.min_eq_right hle]
      exact hwall
  · intro hfree
    obtain ⟨hreplies, stamp, hworld⟩ := moves_of_free hpos hr hg hcs fun j hj _ => hfree j hj
    refine ⟨hreplies, ⟨stamp, hworld⟩, ?_⟩
    intro hlen
    refine ⟨stamp, ?_⟩
    rw [hworld, hlen, Robot.afar_side hg, ← hr]

/-- A robot north of a wall that it reaches only around the edge, on a grid of nine cells; toward
the other facings there is nothing in its way. -/
def walledOff (f : Facing) : World :=
  { side := 3, robot := some ⟨⟨2, 1⟩, f⟩, walls := [⟨1, 1⟩] }

theorem reachable_walledOff (f : Facing) : Reachable 3 (walledOff f) := by
  have hwall : World.after? { side := 3 } (.placeWall ⟨1, 1⟩) =
      some { side := 3, walls := [⟨1, 1⟩] } := by decide
  have hrobot : World.after? { side := 3, walls := [⟨1, 1⟩] } (.placeRobot ⟨⟨2, 1⟩, f⟩) =
      some (walledOff f) := by cases f <;> decide
  exact .after (.after (.ofSide rfl) hwall) hrobot

/-- Moves that say too much. -/
def pressingOn : List Command := ["MOVE", "MOVE on", "MOVE", "MOVE 3,3"].map Command.read

theorem verb_of_mem_pressingOn : ∀ c ∈ pressingOn, c.verb = "MOVE" := by decide +kernel

/-- The hypotheses of `TorusRobot.World.moves_stop_before_walls` are met by a robot that finds the
wall behind it when it has gone around the edge, and by one that has nothing in its way: three of
the moves lead it around the grid. -/
theorem moves_stop_before_walls_walledOff :
    (walledOff .north).replies pressingOn =
        [some (.ok, "OK: MOVED 3,1"), some (.blocked, "ERROR: BLOCKED 1,1"),
          some (.blocked, "ERROR: BLOCKED 1,1"), some (.blocked, "ERROR: BLOCKED 1,1")] ∧
      (∃ stamp, (walledOff .north).applyAll pressingOn =
        { walledOff .north with robot := some ⟨⟨3, 1⟩, .north⟩, stamp := stamp }) ∧
      ∃ stamp, (walledOff .east).applyAll (pressingOn.take 3) =
        { walledOff .east with stamp := stamp } := by
  have hleast : IsLeast
      {j | 1 ≤ j ∧ (Robot.afar ⟨⟨2, 1⟩, .north⟩ 3 j).position ∈ (walledOff .north).walls} 2 := by
    refine ⟨by decide, ?_⟩
    rintro j ⟨hj, hmem⟩
    have hne : j ≠ 1 := by
      rintro rfl
      exact absurd hmem (by decide)
    omega
  have hfree (j : Nat) (hj : 1 ≤ j) :
      (Robot.afar ⟨⟨2, 1⟩, .east⟩ 3 j).position ∉ (walledOff .east).walls := by
    -- toward the east the row stays what it is
    have hrow : (Robot.afar ⟨⟨2, 1⟩, .east⟩ 3 j).position.row = 2 := by
      have hplace : (Robot.afar ⟨⟨2, 1⟩, .east⟩ 3 j).position.row =
          Axis.place (2 + (j : Int) * 0) 3 := rfl
      rw [hplace, Int.mul_zero]
      decide
    intro hmem
    rw [walledOff, List.mem_singleton] at hmem
    rw [hmem] at hrow
    exact absurd hrow (by decide)
  obtain ⟨hnorth, -⟩ := moves_stop_before_walls (reachable_walledOff .north) rfl
    verb_of_mem_pressingOn
  obtain ⟨-, heast⟩ := moves_stop_before_walls (reachable_walledOff .east) rfl
    fun c hc => verb_of_mem_pressingOn c (List.mem_of_mem_take hc)
  obtain ⟨hreplies, hworld⟩ := hnorth 2 hleast
  obtain ⟨-, -, hround⟩ := heast hfree
  exact ⟨hreplies.trans (by decide +kernel), hworld, hround rfl⟩

end World

/-! ### There and back -/

/-- The turn the other way. -/
def Turn.mirrored : Turn → Turn
  | .left => .right
  | .right => .left

/-- Left and right exchanged. -/
def Verb.mirrored : Verb → Verb
  | .left => .right
  | .right => .left
  | v => v

/-- How a drive is driven back: about, then all of it in the reverse order with left and right
exchanged, then about again. -/
def Verb.homeward (vs : List Verb) : List Verb :=
  [.left, .left] ++ vs.reverse.map Verb.mirrored ++ [.left, .left]

theorem Verb.mirrored_ofTurn (t : Turn) : (ofTurn t).mirrored = ofTurn t.mirrored := by
  cases t <;> rfl

/-- Turned about, the robot takes a turn back by one the other way. -/
theorem Robot.turned_mirrored_about (r : Robot) (t : Turn) :
    (r.turned t).about.turned t.mirrored = r.about := by
  cases t with
  | left => simp only [about, turned, Turn.apply, Turn.mirrored, Facing.right_left]
  | right => simp only [about, turned, Turn.apply, Turn.mirrored, Facing.left_right]

/-- The verbs take the robot from one place to another, on a grid of the given side, and no wall
stands in its way. -/
inductive Drives (side : UInt32) (walls : List Position) : Robot → List Verb → Robot → Prop where
  | stay (r : Robot) : Drives side walls r [] r
  | move {r r' : Robot} {vs : List Verb} (hw : (r.ahead side).position ∉ walls)
      (h : Drives side walls (r.ahead side) vs r') : Drives side walls r (.move :: vs) r'
  | turn {r r' : Robot} {vs : List Verb} (t : Turn)
      (h : Drives side walls (r.turned t) vs r') : Drives side walls r (.ofTurn t :: vs) r'

namespace Drives

variable {side : UInt32} {walls : List Position} {r r' r'' : Robot} {us vs : List Verb}

theorem trans (h : Drives side walls r us r') (h' : Drives side walls r' vs r'') :
    Drives side walls r (us ++ vs) r'' := by
  induction h with
  | stay r => exact h'
  | move hw _ ih => exact .move hw (ih h')
  | turn t _ ih => exact .turn t (ih h')

/-- Two turns to the left turn the robot about. -/
theorem about (r : Robot) : Drives side walls r [.left, .left] r.about :=
  .turn .left (.turn .left (.stay r.about))

/-- **What was driven is driven back by a robot turned about**, for it meets only cells on which it
has been. -/
theorem back (h : Drives side walls r vs r') (hg : r.position.OnGrid side)
    (hw : r.position ∉ walls) :
    Drives side walls r'.about (vs.reverse.map Verb.mirrored) r.about := by
  induction h with
  | stay r => exact .stay r.about
  | @move r r' vs hfree _ ih =>
      have hside : 1 ≤ side.toNat := hg.1.1.trans hg.1.2
      have hback := Robot.ahead_about_ahead hg
      have hlast : Drives side walls (r.ahead side).about [.move] r.about := by
        refine .move ?_ ?_
        · rw [hback]
          exact hw
        · rw [hback]
          exact .stay r.about
      rw [List.reverse_cons, List.map_append]
      exact (ih (Position.onGrid_step r.position r.facing hside) hfree).trans hlast
  | @turn r r' vs t _ ih =>
      have hlast : Drives side walls (r.turned t).about [.ofTurn t.mirrored] r.about := by
        refine .turn t.mirrored ?_
        rw [Robot.turned_mirrored_about]
        exact .stay r.about
      rw [List.reverse_cons, List.map_append, List.map_singleton, Verb.mirrored_ofTurn]
      exact (ih hg hw).trans hlast

theorem homeward (h : Drives side walls r vs r') (hg : r.position.OnGrid side)
    (hw : r.position ∉ walls) : Drives side walls r' (Verb.homeward vs) r := by
  have hlast : Drives side walls r.about [.left, .left] r := by
    have habout : Drives side walls r.about [.left, .left] r.about.about := about r.about
    rwa [Robot.about_about] at habout
  exact ((about r').trans (h.back hg hw)).trans hlast

end Drives

namespace World

variable {w : World} {r r' : Robot} {c : Command} {cs : List Command} {vs : List Verb}

/-- Every one of the commands succeeds. -/
def AllSucceed (w : World) (cs : List Command) : Prop :=
  ∀ o ∈ w.outcomes cs, o.map Outcome.status = some .ok

theorem allSucceed_nil (w : World) : w.AllSucceed [] := List.forall_mem_nil _

theorem allSucceed_cons : w.AllSucceed (c :: cs) ↔
    (w.apply c).1.map Outcome.status = some .ok ∧ (w.apply c).2.AllSucceed cs :=
  List.forall_mem_cons

/-- A drive that no wall stands in the way of is made by commands. -/
theorem follows_of_drives (h : Drives w.side w.walls r vs r') (hr : w.robot = some r)
    (hcs : cs.map Command.verb = vs.map Verb.name) :
    w.AllSucceed cs ∧ ∃ stamp, w.applyAll cs = { w with robot := some r', stamp := stamp } := by
  induction vs generalizing w r cs with
  | nil =>
      obtain rfl := List.map_eq_nil_iff.1 hcs
      cases h
      exact ⟨allSucceed_nil w, w.stamp, by rw [applyAll_nil, ← hr]⟩
  | cons v vs ih =>
      obtain ⟨c, cs, rfl, hc, hrest⟩ := List.map_eq_cons_iff.1 hcs
      cases h with
      | move hw h =>
          obtain ⟨stamp, happ⟩ := apply_move_of_free hc hr hw
          obtain ⟨hok, stamp', hworld⟩ := ih
            (w := { w with robot := some (r.ahead w.side), stamp := stamp }) h rfl hrest
          rw [allSucceed_cons, applyAll_cons, happ]
          exact ⟨⟨rfl, hok⟩, stamp', hworld⟩
      | turn t h =>
          obtain ⟨stamp, happ⟩ := apply_turn hc hr
          obtain ⟨hok, stamp', hworld⟩ := ih
            (w := { w with robot := some (r.turned t), stamp := stamp }) h rfl hrest
          rw [allSucceed_cons, applyAll_cons, happ]
          exact ⟨⟨rfl, hok⟩, stamp', hworld⟩

/-- Moves and turns that all succeed are a drive. -/
theorem drives_of_allSucceed (hr : w.robot = some r)
    (hvs : ∀ v ∈ vs, v ∈ [Verb.move, Verb.left, Verb.right])
    (hcs : cs.map Command.verb = vs.map Verb.name) (hok : w.AllSucceed cs) :
    ∃ r', Drives w.side w.walls r vs r' := by
  induction vs generalizing w r cs with
  | nil => exact ⟨r, .stay r⟩
  | cons v vs ih =>
      obtain ⟨c, cs, rfl, hc, hrest⟩ := List.map_eq_cons_iff.1 hcs
      obtain ⟨hv, hvs'⟩ := List.forall_mem_cons.1 hvs
      obtain ⟨hstatus, hok⟩ := allSucceed_cons.1 hok
      have hturn (t : Turn) (ht : v = .ofTurn t) : ∃ r', Drives w.side w.walls r (v :: vs) r' := by
        subst ht
        obtain ⟨stamp, happ⟩ := apply_turn hc hr
        rw [happ] at hok
        obtain ⟨r', h⟩ := ih rfl hvs' hrest hok
        exact ⟨r', .turn t h⟩
      simp only [List.mem_cons, List.not_mem_nil, or_false] at hv
      rcases hv with rfl | rfl | rfl
      · by_cases hw : (r.ahead w.side).position ∈ w.walls
        · -- this move was blocked
          obtain ⟨stamp, happ⟩ := apply_move_of_wall hc hr hw
          rw [happ] at hstatus
          exact absurd hstatus (by simp [Verdict.outcome, Verdict.status])
        · obtain ⟨stamp, happ⟩ := apply_move_of_free hc hr hw
          rw [happ] at hok
          obtain ⟨r', h⟩ := ih rfl hvs' hrest hok
          exact ⟨r', .move hw h⟩
      · exact hturn .left rfl
      · exact hturn .right rfl

/-- **Every drive that succeeds can be driven back.**  In a reachable world the robot is given moves
and turns, and all of them succeed.  Then so do two turns to the left, the same moves and turns in
the reverse order with left and right exchanged, and two more turns to the left, and they lead the
robot back to where it was, facing as it did.  All else is as it was but for the stamp. -/
theorem drives_lead_back {side : UInt32} {w : World} {r : Robot} (h : Reachable side w)
    (hr : w.robot = some r) {vs : List Verb} {cs back : List Command}
    (hvs : ∀ v ∈ vs, v ∈ [Verb.move, Verb.left, Verb.right])
    (hcs : cs.map Command.verb = vs.map Verb.name)
    (hback : back.map Command.verb = (Verb.homeward vs).map Verb.name)
    (hok : w.AllSucceed cs) :
    (w.applyAll cs).AllSucceed back ∧
      ∃ stamp, (w.applyAll cs).applyAll back = { w with stamp := stamp } := by
  obtain ⟨-, hsound⟩ := h.sound
  obtain ⟨r', hdrives⟩ := drives_of_allSucceed hr hvs hcs hok
  obtain ⟨-, stamp, hworld⟩ := follows_of_drives hdrives hr hcs
  have hhome := hdrives.homeward (hsound.robot_onGrid r hr) (hsound.robot_notMem r hr)
  rw [hworld]
  obtain ⟨hsucceed, stamp', hlast⟩ := follows_of_drives
    (w := { w with robot := some r', stamp := stamp }) hhome rfl hback
  refine ⟨hsucceed, stamp', ?_⟩
  rw [hlast, ← hr]

/-- Commands with the given verbs and nothing else. -/
def commandsOf (vs : List Verb) : List Command := vs.map fun v => ⟨v.name, [], v.name⟩

theorem map_verb_commandsOf (vs : List Verb) :
    (commandsOf vs).map Command.verb = vs.map Verb.name := by
  simp [commandsOf]

/-- A drive around the edge and past a wall. -/
def roundTrip : List Verb := [.move, .right, .move, .move, .left, .move, .right]

/-- The hypotheses of `TorusRobot.World.drives_lead_back` are met by a drive that leaves a grid of
nine cells and passes by the wall. -/
theorem drives_lead_back_roundTrip :
    (walledOff .north).AllSucceed (commandsOf roundTrip) ∧
      ((walledOff .north).applyAll (commandsOf roundTrip)).robot = some ⟨⟨1, 3⟩, .east⟩ ∧
      ((walledOff .north).applyAll (commandsOf roundTrip)).AllSucceed
        (commandsOf (Verb.homeward roundTrip)) ∧
      ∃ stamp, ((walledOff .north).applyAll (commandsOf roundTrip)).applyAll
        (commandsOf (Verb.homeward roundTrip)) = { walledOff .north with stamp := stamp } := by
  have hok : (walledOff .north).AllSucceed (commandsOf roundTrip) := by
    unfold AllSucceed
    decide +kernel
  obtain ⟨hback, hlast⟩ := drives_lead_back (reachable_walledOff .north) rfl (by decide)
    (map_verb_commandsOf roundTrip) (map_verb_commandsOf (Verb.homeward roundTrip)) hok
  exact ⟨hok, by decide +kernel, hback, hlast⟩

end World

end TorusRobot
