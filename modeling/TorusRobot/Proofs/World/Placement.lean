/-
**The grammar of placements.**

Which lines place the robot or a wall can be said without following a line through the program.
Between blanks such a line is a verb, one blank, and fields separated by commas: a row, a column
and, for a robot, a facing.  Row and column are integers of any length whose values lie on the
grid, and the cell is free.  Every other line that starts with one of the two verbs is refused and
changes nothing.

Main definitions:

* `TorusRobot.Command.RobotLine`, `TorusRobot.Command.WallLine` — what a line asks for;
* `TorusRobot.World.TakesEffect` — a line succeeds as a given verb, with a given world after it;
* `TorusRobot.World.PlacesRobot`, `TorusRobot.World.PlacesWall` — a line places something.

Main results:

* `TorusRobot.World.placesRobot_iff`, `TorusRobot.World.placesWall_iff` — the lines that place
  something;
* `TorusRobot.World.placements_follow_their_grammar` — every line in every reachable world.
-/
import TorusRobot.Proofs.Text.Cutting
import TorusRobot.Proofs.Text.Numeral
import TorusRobot.Proofs.World.Effects

set_option relaxedAutoImplicit false
set_option autoImplicit false

namespace TorusRobot

namespace Command

open Text

/-! ### What a line asks for -/

/-- The line asks for the robot `r`: its fields are a row, a column and a facing. -/
def RobotLine (line : String) (r : Robot) : Prop :=
  ∃ row col : String, Written line "PLACE_ROBOT" [row, col, r.facing.name] ∧
    Numeral row.toList r.position.row.toNat ∧ Numeral col.toList r.position.col.toNat

/-- The line asks for a wall at `p`: its fields are a row and a column. -/
def WallLine (line : String) (p : Position) : Prop :=
  ∃ row col : String, Written line "PLACE_WALL" [row, col] ∧
    Numeral row.toList p.row.toNat ∧ Numeral col.toList p.col.toNat

theorem isBlank_of_mem_name (v : Verb) : ∀ c ∈ v.name.toList, isBlank c = false := by
  have hall : (v.name.toList.all fun c => !isBlank c) = true := by
    cases v <;> decide
  intro c hc
  simpa using List.all_eq_true.1 hall c hc

theorem robotLine_iff {line : String} {r : Robot} :
    RobotLine line r ↔ (read line).verb = "PLACE_ROBOT" ∧ (read line).AsksForRobot r := by
  have hname : ∀ c ∈ "PLACE_ROBOT".toList, isBlank c = false := isBlank_of_mem_name .placeRobot
  simp only [RobotLine, AsksForRobot, World.Names, Decimal.integer?_eq_some_iff,
    written_iff hname (List.cons_ne_nil _ _), and_assoc, exists_and_left]

theorem wallLine_iff {line : String} {p : Position} :
    WallLine line p ↔ (read line).verb = "PLACE_WALL" ∧ (read line).AsksForWall p := by
  have hname : ∀ c ∈ "PLACE_WALL".toList, isBlank c = false := isBlank_of_mem_name .placeWall
  simp only [WallLine, AsksForWall, World.Names, Decimal.integer?_eq_some_iff,
    written_iff hname (List.cons_ne_nil _ _), and_assoc, exists_and_left]

end Command

namespace World

variable {w v : World} {line : String}

/-! ### Taking effect -/

/-- The line succeeds as the given verb, and the world after it is `v`, stamped accordingly. -/
def TakesEffect (w : World) (line : String) (verb : Verb) (v : World) : Prop :=
  ∃ o, w.apply (Command.read line) = (some o, v.stamped verb.name .ok o.message) ∧ o.status = .ok

/-- The line places the robot `r`, and all else stays. -/
def PlacesRobot (w : World) (line : String) (r : Robot) : Prop :=
  w.TakesEffect line .placeRobot { w with robot := some r }

/-- The line places a wall at `p`, behind the others, and all else stays. -/
def PlacesWall (w : World) (line : String) (p : Position) : Prop :=
  w.TakesEffect line .placeWall { w with walls := w.walls ++ [p] }

theorem eq_of_stamped_eq {x y : World} {a b : String} {s t : Status} {m n : String}
    (h : x.stamped a s m = y.stamped b t n) (hstamp : x.stamp = y.stamp) : x = y ∧ a = b := by
  cases x
  cases y
  simp_all [stamped]

/-- A line succeeds as a verb exactly if this is its verb and the command is judged to succeed. -/
theorem takesEffect_iff {verb : Verb} (h : 1 ≤ w.side.toNat) (hv : v.stamp = w.stamp) :
    w.TakesEffect line verb v ↔ (Command.read line).verb = verb.name ∧
      (w.judge (Command.read line)).1.status = .ok ∧ (w.judge (Command.read line)).2 = v := by
  constructor
  · rintro ⟨o, happ, hok⟩
    cases hc : (Command.read line).isEmpty with
    | true =>
        rw [apply_of_isEmpty hc] at happ
        cases happ
    | false =>
        rw [apply_of_not_isEmpty hc, Prod.mk.injEq, Option.some.injEq] at happ
        obtain ⟨rfl, hworld⟩ := happ
        -- the stamp tells the verb; behind it the judgment has kept the stamp there was
        have hstamp := ((judge_ok_iff h).1 ⟨hok, rfl⟩).stamp_eq
        obtain ⟨heq, hverb⟩ := eq_of_stamped_eq hworld (hstamp.trans hv.symm)
        exact ⟨hverb, hok, heq⟩
  · rintro ⟨hverb, hok, rfl⟩
    refine ⟨(w.judge (Command.read line)).1.outcome (Command.read line).raw, ?_, hok⟩
    rw [apply_of_not_isEmpty (isEmpty_of_verb hverb), hverb, hok]
    rfl

/-! ### Placing -/

theorem judge_placeRobot {c : Command} (h : c.verb = "PLACE_ROBOT") :
    w.judge c = w.judgeRobot c.args := by
  rw [judge, Verb.ofName?_of_eq .placeRobot h]

theorem judge_placeWall {c : Command} (h : c.verb = "PLACE_WALL") :
    w.judge c = w.judgeWall c.args := by
  rw [judge, Verb.ofName?_of_eq .placeWall h]

/-- **The lines that place the robot** ask for one on a cell of the grid without a wall. -/
theorem placesRobot_iff {r : Robot} (h : 1 ≤ w.side.toNat) :
    w.PlacesRobot line r ↔
      Command.RobotLine line r ∧ r.position.OnGrid w.side ∧ r.position ∉ w.walls := by
  have hstamp : ({ w with robot := some r } : World).stamp = w.stamp := rfl
  rw [PlacesRobot, takesEffect_iff h hstamp, Command.robotLine_iff]
  constructor
  · rintro ⟨hverb, hjudge⟩
    rw [judge_placeRobot hverb] at hjudge
    obtain ⟨r', hr, hg, hw, heq⟩ := judgeRobot_ok_iff.1 hjudge
    obtain rfl : r = r' := Option.some.inj (congrArg World.robot heq)
    exact ⟨⟨hverb, hr⟩, hg, hw⟩
  · rintro ⟨⟨hverb, hr⟩, hg, hw⟩
    rw [judge_placeRobot hverb]
    exact ⟨hverb, judgeRobot_ok_iff.2 ⟨r, hr, hg, hw, rfl⟩⟩

/-- **The lines that place a wall** ask for one on a cell of the grid that holds nothing. -/
theorem placesWall_iff {p : Position} (h : 1 ≤ w.side.toNat) :
    w.PlacesWall line p ↔
      Command.WallLine line p ∧ p.OnGrid w.side ∧ p ∉ w.walls ∧
        ∀ r, w.robot = some r → r.position ≠ p := by
  have hstamp : ({ w with walls := w.walls ++ [p] } : World).stamp = w.stamp := rfl
  rw [PlacesWall, takesEffect_iff h hstamp, Command.wallLine_iff]
  constructor
  · rintro ⟨hverb, hjudge⟩
    rw [judge_placeWall hverb] at hjudge
    obtain ⟨q, hq, hg, hr, hw, heq⟩ := judgeWall_ok_iff.1 hjudge
    obtain ⟨-, hpq⟩ := List.append_inj' (congrArg World.walls heq) rfl
    obtain rfl := List.singleton_inj.1 hpq
    exact ⟨⟨hverb, hq⟩, hg, hw, hr⟩
  · rintro ⟨⟨hverb, hp⟩, hg, hw, hr⟩
    rw [judge_placeWall hverb]
    exact ⟨hverb, judgeWall_ok_iff.2 ⟨p, hp, hg, hr, hw, rfl⟩⟩

/-! ### Refusing -/

/-- A request for no place on the grid is refused as such, however large its numbers are. -/
theorem judgeRobot_of_not_asks {c : Command}
    (h : ∀ r, c.AsksForRobot r → ¬ r.position.OnGrid w.side) :
    w.judgeRobot c.args = (.badPlacement .placeRobot, w) := by
  have hnone (row col facing : String) (r : Robot) (hargs : c.args = [row, col, facing])
      (hr : w.robotOf? row col facing = some r) : False := by
    obtain ⟨hp, rfl⟩ := robotOf?_eq_some_iff.1 hr
    obtain ⟨hrow, hcol, hg⟩ := cellOf?_eq_some_iff.1 hp
    exact h r ⟨row, col, hargs, hrow, hcol⟩ hg
  generalize hargs : c.args = args
  fun_cases judgeRobot w args with
  | case1 row col facing hr => rfl
  | case2 row col facing r hr next hnext => exact (hnone row col facing r hargs hr).elim
  | case3 row col facing r hr fault hfault => exact (hnone row col facing r hargs hr).elim
  | case4 args' hshape => rfl

theorem judgeWall_of_not_asks {c : Command} (h : ∀ p, c.AsksForWall p → ¬ p.OnGrid w.side) :
    w.judgeWall c.args = (.badPlacement .placeWall, w) := by
  have hnone (row col : String) (p : Position) (hargs : c.args = [row, col])
      (hp : w.cellOf? row col = some p) : False := by
    obtain ⟨hrow, hcol, hg⟩ := cellOf?_eq_some_iff.1 hp
    exact h p ⟨row, col, hargs, hrow, hcol⟩ hg
  generalize hargs : c.args = args
  fun_cases judgeWall w args with
  | case1 row col hp => rfl
  | case2 row col p hp next hnext => exact (hnone row col p hargs hp).elim
  | case3 row col p hp fault hfault => exact (hnone row col p hargs hp).elim
  | case4 args' hshape => rfl

/-- A placement that does not succeed is invalid. -/
theorem status_of_not_places {verb : Verb} (h : 1 ≤ w.side.toNat)
    (hmem : verb ∈ [Verb.placeRobot, Verb.placeWall])
    (hverb : (Command.read line).verb = verb.name) (hr : ∀ r, ¬ w.PlacesRobot line r)
    (hp : ∀ p, ¬ w.PlacesWall line p) : (w.judge (Command.read line)).1.status = .invalid := by
  simp only [List.mem_cons, List.not_mem_nil, or_false] at hmem
  rcases hmem with rfl | rfl
  · rw [judge_placeRobot hverb]
    refine (status_judgeRobot w _).resolve_left fun hok => ?_
    obtain ⟨r, hasks, hg, hw, -⟩ := judgeRobot_ok_iff.1 ⟨hok, rfl⟩
    exact hr r ((placesRobot_iff h).2 ⟨Command.robotLine_iff.2 ⟨hverb, hasks⟩, hg, hw⟩)
  · rw [judge_placeWall hverb]
    refine (status_judgeWall w _).resolve_left fun hok => ?_
    obtain ⟨p, hasks, hg, hrobot, hw, -⟩ := judgeWall_ok_iff.1 ⟨hok, rfl⟩
    exact hp p ((placesWall_iff h).2 ⟨Command.wallLine_iff.2 ⟨hverb, hasks⟩, hg, hw, hrobot⟩)

theorem judge_of_no_place {verb : Verb} (hmem : verb ∈ [Verb.placeRobot, Verb.placeWall])
    (hverb : (Command.read line).verb = verb.name)
    (hr : ∀ r, Command.RobotLine line r → ¬ r.position.OnGrid w.side)
    (hp : ∀ p, Command.WallLine line p → ¬ p.OnGrid w.side) :
    w.judge (Command.read line) = (.badPlacement verb, w) := by
  simp only [List.mem_cons, List.not_mem_nil, or_false] at hmem
  rcases hmem with rfl | rfl
  · rw [judge_placeRobot hverb]
    exact judgeRobot_of_not_asks fun r hasks => hr r (Command.robotLine_iff.2 ⟨hverb, hasks⟩)
  · rw [judge_placeWall hverb]
    exact judgeWall_of_not_asks fun p hasks => hp p (Command.wallLine_iff.2 ⟨hverb, hasks⟩)

/-- **Placements follow their grammar.**  In a reachable world on a grid of the given side, a line
places the robot exactly if it asks for that robot and its cell is on the grid and holds no wall; a
line places a wall exactly if it asks for that wall and its cell is on the grid and holds neither a
wall nor the robot.  Every other line with one of the two verbs is invalid and, the stamp apart,
leaves the world as it was; if it asks for no place on the grid, its message says only that, and
it makes no difference how many digits or leading zeros it spends on that. -/
theorem placements_follow_their_grammar {side : UInt32} {w : World} (h : Reachable side w)
    (line : String) :
    (∀ r, w.PlacesRobot line r ↔
      Command.RobotLine line r ∧ r.position.OnGrid side ∧ r.position ∉ w.walls) ∧
    (∀ p, w.PlacesWall line p ↔
      Command.WallLine line p ∧ p.OnGrid side ∧ p ∉ w.walls ∧
        ∀ r, w.robot = some r → r.position ≠ p) ∧
    ∀ verb ∈ [Verb.placeRobot, Verb.placeWall], (Command.read line).verb = verb.name →
      (∀ r, ¬ w.PlacesRobot line r) → (∀ p, ¬ w.PlacesWall line p) →
      ∃ o, w.apply (Command.read line) = (some o, w.stamped verb.name .invalid o.message) ∧
        o.status = .invalid ∧
        ((∀ r, Command.RobotLine line r → ¬ r.position.OnGrid side) →
          (∀ p, Command.WallLine line p → ¬ p.OnGrid side) →
          o.message = "ERROR: INVALID " ++ verb.name) := by
  obtain ⟨rfl, hsound⟩ := h.sound
  have hpos := hsound.side_pos
  refine ⟨fun r => placesRobot_iff hpos, fun p => placesWall_iff hpos, ?_⟩
  intro verb hmem hverb hr hp
  have hinvalid := status_of_not_places hpos hmem hverb hr hp
  have hworld := judge_of_status_ne_ok (w := w) (c := Command.read line) (by simp [hinvalid])
  refine ⟨(w.judge (Command.read line)).1.outcome (Command.read line).raw, ?_, hinvalid, ?_⟩
  · rw [apply_of_not_isEmpty (isEmpty_of_verb hverb), hverb, hinvalid, hworld]
    rfl
  · intro hnorobot hnowall
    rw [judge_of_no_place hmem hverb hnorobot hnowall]
    rfl

/-- A line that asks for the robot on 5,3 and spares neither blanks nor zeros nor commas. -/
def padded : String := "\u3000PLACE_ROBOT\u2003 +000000000000000000000005 ,\t, 3,\u0085SOUTH\n"

/-- A line whose row is one more than what 64 bits can tell apart. -/
def wrapping : String := "PLACE_WALL 18446744073709551617,2"

/-- The hypothesis of `TorusRobot.World.placements_follow_their_grammar` is met by a robot that
has gone around the edge.  There the padded line places the robot, and a row that would wrap to one
in 64 bits is refused like any other off the grid. -/
theorem placements_follow_their_grammar_padded :
    Reachable 5 roundTheEdge ∧ roundTheEdge.PlacesRobot padded ⟨⟨5, 3⟩, .south⟩ ∧
      ∃ o, roundTheEdge.apply (Command.read wrapping) =
          (some o, roundTheEdge.stamped "PLACE_WALL" .invalid o.message) ∧
        o.message = "ERROR: INVALID PLACE_WALL" := by
  obtain ⟨hplaces, -, -⟩ := placements_follow_their_grammar reachable_roundTheEdge padded
  obtain ⟨hrobot, hwall, hother⟩ := placements_follow_their_grammar reachable_roundTheEdge wrapping
  have hline : Command.RobotLine padded ⟨⟨5, 3⟩, .south⟩ := by
    refine ⟨"+000000000000000000000005", "3", ?_, ?_, ?_⟩
    · exact ⟨'\u2003', " +000000000000000000000005 ,\t, 3,\u0085SOUTH".toList, by decide,
        by decide +kernel, by decide +kernel⟩
    · exact .plus ⟨by decide, List.all_eq_true.1 (by decide), by decide⟩
    · exact .plain ⟨by decide, List.all_eq_true.1 (by decide), by decide⟩
  have hverb : (Command.read wrapping).verb = "PLACE_WALL" := by decide +kernel
  -- the two verbs differ, and no coordinate is as large as the row
  have hnorobot (r : Robot) : ¬ Command.RobotLine wrapping r := by
    intro hr
    have hverb' := (Command.robotLine_iff.1 hr).1
    rw [hverb] at hverb'
    exact absurd hverb' (by decide)
  have hnowall (p : Position) : ¬ Command.WallLine wrapping p := by
    intro hp
    obtain ⟨-, row, col, hargs, hrow, -⟩ := Command.wallLine_iff.1 hp
    have hargs' : (Command.read wrapping).args = ["18446744073709551617", "2"] := by
      decide +kernel
    rw [hargs'] at hargs
    obtain ⟨rfl, -⟩ := List.cons.inj hargs
    have hvalue : Text.Decimal.integer? "18446744073709551617".toList =
        some 18446744073709551617 := by decide +kernel
    have hlarge : (18446744073709551617 : Int) = p.row.toNat :=
      Option.some.inj (hvalue.symm.trans hrow)
    have hsmall := p.row.toNat_lt
    omega
  obtain ⟨o, happ, -, hmessage⟩ := hother .placeWall (by decide) hverb
    (fun r hr => hnorobot r ((hrobot r).1 hr).1) (fun p hp => hnowall p ((hwall p).1 hp).1)
  exact ⟨reachable_roundTheEdge,
    (hplaces _).2 ⟨hline, ⟨⟨by decide, by decide⟩, by decide, by decide⟩, by decide⟩, o, happ,
    hmessage (fun r hr => absurd hr (hnorobot r)) fun p hp => absurd hp (hnowall p)⟩

end World

end TorusRobot
