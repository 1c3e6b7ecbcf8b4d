/-
**Rebuilding a world from its own text.**

The words in which positions and robots are told are words that placements are read from.  So a
reachable world can be written down as lines, one for each wall in order and one for the robot, and
in an empty world every one of these lines succeeds and together they restore grid, robot and
walls.  A session does the same with them however it treats upper and lower case, and so does the
layout of the world, which is built without commands.

Main definitions:

* `TorusRobot.World.layout` — the layout of a world;
* `TorusRobot.Layout.lines` — a layout as lines;
* `TorusRobot.World.Follows` — lines that all succeed, and the world they lead to.

Main results:

* `TorusRobot.Command.robotLine_text`, `TorusRobot.Command.wallLine_text` — what is told is read;
* `TorusRobot.World.Sound.follows_lines`, `TorusRobot.World.Sound.build_layout` — the layout of a
  sound world, followed as lines and built without them;
* `TorusRobot.Session.answers_of_lines` — a session follows the lines that a world follows;
* `TorusRobot.World.worlds_can_be_rebuilt` — every reachable world.
-/
import TorusRobot.Proofs.Session.Gains
import TorusRobot.Proofs.Session.Noninterference
import TorusRobot.Proofs.World.Placement
import TorusRobot.Scenario.Layout

set_option relaxedAutoImplicit false
set_option autoImplicit false

namespace TorusRobot

/-! ### Words that are read back -/

open Text Decimal

theorem Position.toList_text (p : Position) :
    p.text.toList = digits p.row.toNat ++ ',' :: digits p.col.toNat := by
  simp [Position.text, Decimal.text]

theorem Robot.toList_text (r : Robot) :
    r.text.toList = r.position.text.toList ++ ',' :: r.facing.name.toList := by
  simp [Robot.text]

theorem Text.fields_digits (n : Nat) : fields (digits n) = [digits n] :=
  fields_of_not_mem (digits_ne_nil n) (digits_clear n).2 (digits_clear n).1

theorem Position.fields_text (p : Position) :
    fields p.text.toList = [digits p.row.toNat, digits p.col.toNat] := by
  rw [toList_text, fields_append_comma, fields_digits, fields_digits, List.singleton_append]

theorem Facing.fields_name (f : Facing) : fields f.name.toList = [f.name.toList] := by
  cases f <;> decide

theorem Robot.fields_text (r : Robot) :
    fields r.text.toList =
      [digits r.position.row.toNat, digits r.position.col.toNat, r.facing.name.toList] := by
  rw [toList_text, fields_append_comma, Position.fields_text, Facing.fields_name]
  rfl

namespace Command

/-- What is told of a position is read as a wall there. -/
theorem wallLine_text (p : Position) : WallLine ("PLACE_WALL " ++ p.text) p := by
  have hline : ("PLACE_WALL " ++ p.text).toList = "PLACE_WALL".toList ++ ' ' :: p.text.toList := by
    rw [String.toList_append]
    rfl
  have hwritten := written_of_eq hline (isBlank_of_mem_name .placeWall) (by decide) rfl
    (by simp [Position.fields_text])
  rw [Position.fields_text] at hwritten
  refine ⟨_, _, hwritten, ?_, ?_⟩
  · rw [String.toList_ofList]
    exact numeral_digits _
  · rw [String.toList_ofList]
    exact numeral_digits _

/-- What is told of a robot is read as that robot. -/
theorem robotLine_text (r : Robot) : RobotLine ("PLACE_ROBOT " ++ r.text) r := by
  have hline : ("PLACE_ROBOT " ++ r.text).toList =
      "PLACE_ROBOT".toList ++ ' ' :: r.text.toList := by
    rw [String.toList_append]
    rfl
  have hwritten := written_of_eq hline (isBlank_of_mem_name .placeRobot) (by decide) rfl
    (by simp [Robot.fields_text])
  rw [Robot.fields_text] at hwritten
  simp only [List.map_cons, List.map_nil, String.ofList_toList] at hwritten
  refine ⟨_, _, hwritten, ?_, ?_⟩
  · rw [String.toList_ofList]
    exact numeral_digits _
  · rw [String.toList_ofList]
    exact numeral_digits _

end Command

/-! ### Layouts as lines -/

/-- The layout of a world. -/
def World.layout (w : World) : Layout := ⟨w.side, w.walls, w.robot⟩

/-- A layout as lines: one for each wall in order, and one for the robot. -/
def Layout.lines (l : Layout) : List String :=
  (l.walls.map fun p => "PLACE_WALL " ++ p.text) ++
    l.robot.toList.map fun r => "PLACE_ROBOT " ++ r.text

theorem Text.isCaseless_digits (n : Nat) : isCaseless (digits n) = true := by
  refine List.all_eq_true.2 fun c hc => ?_
  have hdigit := isDigit_of_mem_digits hc
  simp only [Decimal.isDigit, Bool.and_eq_true, decide_eq_true_eq] at hdigit
  have hle : c.toNat ≤ 57 := hdigit.2
  rw [decide_eq_true_eq]
  omega

theorem Position.isCaseless_text (p : Position) : isCaseless p.text.toList = true := by
  simp [toList_text, isCaseless_digits]

theorem Facing.isCaseless_name (f : Facing) : isCaseless f.name.toList = true := by
  cases f <;> decide

/-- The lines of a layout are in upper case. -/
theorem Layout.isCaseless_of_mem_lines {l : Layout} {line : String} (h : line ∈ l.lines) :
    isCaseless line.toList = true := by
  rcases List.mem_append.1 h with h | h
  · obtain ⟨p, -, rfl⟩ := List.mem_map.1 h
    have hverb : isCaseless "PLACE_WALL ".toList = true := by decide
    rw [String.toList_append, isCaseless_append, hverb, p.isCaseless_text, Bool.and_self]
  · obtain ⟨r, -, rfl⟩ := List.mem_map.1 h
    have hverb : isCaseless "PLACE_ROBOT ".toList = true := by decide
    rw [String.toList_append, isCaseless_append, hverb, Robot.toList_text]
    simp [Position.isCaseless_text, Facing.isCaseless_name]

/-! ### Following lines -/

namespace World

/-- Every one of the lines succeeds, and but for the stamp they lead from `w` to `v`. -/
structure Follows (w : World) (lines : List String) (v : World) : Prop where
  statuses_eq : (w.outcomes (lines.map Command.read)).map (Option.map Outcome.status) =
    lines.map fun _ => some .ok
  world_eq : ∃ stamp, w.applyAll (lines.map Command.read) = { v with stamp := stamp }

namespace Follows

variable {u v w : World} {line : String} {lines : List String}

/-- Stamps are left out of account. -/
theorem restamp (h : Follows w lines v) (stamp : Option Stamp) :
    Follows w lines { v with stamp := stamp } :=
  ⟨h.statuses_eq, h.world_eq⟩

theorem nil (w : World) : Follows w [] w := ⟨rfl, w.stamp, rfl⟩

theorem cons {verb : Verb} (h : w.TakesEffect line verb u)
    (hs : ∀ stamp, Follows { u with stamp := stamp } lines v) : Follows w (line :: lines) v := by
  obtain ⟨o, happ, hok⟩ := h
  obtain ⟨hstatuses, hworld⟩ := hs (some ⟨verb.name, .ok, o.message⟩)
  constructor
  · rw [List.map_cons, outcomes_cons, happ, List.map_cons, List.map_cons, Option.map_some, hok]
    exact congrArg _ hstatuses
  · rw [List.map_cons, applyAll_cons, happ]
    exact hworld

theorem single {verb : Verb} (h : w.TakesEffect line verb u) : Follows w [line] u :=
  cons h fun _ => (nil _).restamp u.stamp

theorem append {lines' : List String} (h : Follows w lines v)
    (hs : ∀ stamp, Follows { v with stamp := stamp } lines' u) :
    Follows w (lines ++ lines') u := by
  obtain ⟨hstatuses, stamp, hworld⟩ := h
  obtain ⟨hstatuses', hworld'⟩ := hs stamp
  constructor
  · rw [List.map_append, outcomes_append, List.map_append, hstatuses, hworld, hstatuses',
      List.map_append]
  · rw [List.map_append, applyAll_append, hworld]
    exact hworld'

end Follows

/-! ### Walls, then the robot -/

/-- Walls can be put on the given cells, one after another. -/
structure Admits (w : World) (ps : List Position) : Prop where
  side_pos : 1 ≤ w.side.toNat
  robot_eq : w.robot = none
  onGrid : ∀ p ∈ ps, p.OnGrid w.side
  nodup : (w.walls ++ ps).Nodup

namespace Admits

variable {w : World} {p : Position} {ps : List Position}

/-- The first of the cells is free. -/
theorem free (h : w.Admits (p :: ps)) :
    p.OnGrid w.side ∧ p ∉ w.walls ∧ ∀ r, w.robot = some r → r.position ≠ p := by
  refine ⟨h.onGrid p List.mem_cons_self, ?_, ?_⟩
  · intro hp
    exact (List.nodup_append.1 h.nodup).2.2 p hp p List.mem_cons_self rfl
  · intro r hr
    rw [h.robot_eq] at hr
    cases hr

/-- With a wall there, the others can still be put on theirs. -/
theorem rest (h : w.Admits (p :: ps)) (stamp : Option Stamp) :
    Admits { w with walls := w.walls ++ [p], stamp := stamp } ps where
  side_pos := h.side_pos
  robot_eq := h.robot_eq
  onGrid := by
    intro q hq
    exact h.onGrid q (List.mem_cons_of_mem p hq)
  nodup := by simpa using h.nodup

/-- The lines of the walls are followed. -/
theorem follows (h : w.Admits ps) :
    Follows w (ps.map fun p => "PLACE_WALL " ++ p.text) { w with walls := w.walls ++ ps } := by
  induction ps generalizing w with
  | nil => simpa using Follows.nil w
  | cons p ps ih =>
      have hplaces : w.PlacesWall ("PLACE_WALL " ++ p.text) p :=
        (placesWall_iff h.side_pos).2 ⟨Command.wallLine_text p, h.free⟩
      rw [List.map_cons]
      -- the other lines find the new wall behind the old ones, and the stamp of this line
      refine Follows.cons hplaces fun stamp => ?_
      simpa using (ih (h.rest stamp)).restamp w.stamp

/-- The walls are placed without lines. -/
theorem placeWalls_eq (h : w.Admits ps) :
    Layout.placeWalls w ps = .ok { w with walls := w.walls ++ ps } := by
  induction ps generalizing w with
  | nil => simp [Layout.placeWalls]
  | cons p ps ih =>
      obtain ⟨hg, hw, hr⟩ := h.free
      have hplaced := placeWall_eq_ok_iff.2 ⟨Position.within_iff.2 hg, hr, hw, rfl⟩
      rw [Layout.placeWalls, hplaced]
      simpa using ih (h.rest w.stamp)

end Admits

/-- The world with grid, robot and walls of another, and nothing besides. -/
def bare (w : World) : World := { side := w.side, robot := w.robot, walls := w.walls }

namespace Sound

variable {w : World}

theorem admits (hw : w.Sound) : Admits { side := w.side } w.walls where
  side_pos := hw.side_pos
  robot_eq := rfl
  onGrid := hw.wall_onGrid
  nodup := by simpa using hw.walls_nodup

/-- The lines of a sound world are followed from an empty one. -/
theorem follows_lines (hw : w.Sound) : Follows { side := w.side } w.layout.lines w.bare := by
  have hwalls := hw.admits.follows
  rw [List.nil_append] at hwalls
  refine hwalls.append fun stamp => ?_
  rw [layout, bare]
  cases hr : w.robot with
  | none => exact (Follows.nil _).restamp none
  | some r =>
      have hplaces := (placesRobot_iff (w := { side := w.side, walls := w.walls, stamp := stamp })
        hw.side_pos).2 ⟨Command.robotLine_text r, hw.robot_onGrid r hr, hw.robot_notMem r hr⟩
      exact (Follows.single hplaces).restamp none

theorem ofSide_side (hw : w.Sound) : World.ofSide w.side = .ok { side := w.side } := by
  rw [World.ofSide, Grid.checkSide_eq_ok_iff.2 ⟨rfl, hw.side_pos, hw.side_le⟩]
  rfl

/-- The layout of a sound world is built without a fault. -/
theorem build_layout (hw : w.Sound) : w.layout.build = .ok w.bare := by
  have hwalls := hw.admits.placeWalls_eq
  rw [List.nil_append] at hwalls
  simp only [Layout.build, layout, hw.ofSide_side, hwalls, bare]
  cases hr : w.robot with
  | none => rfl
  | some r =>
      have hplaced : World.placeRobot { side := w.side, walls := w.walls } r =
          .ok { side := w.side, robot := some r, walls := w.walls } :=
        placeRobot_eq_ok_iff.2
          ⟨Position.within_iff.2 (hw.robot_onGrid r hr), hw.robot_notMem r hr, rfl⟩
      simp only [Layout.placeRobot, hplaced]

end Sound

end World

/-! ### Sessions -/

/-- **A session follows the lines that a world follows**, if they read the same however lines are
treated. -/
theorem Session.answers_of_lines {s : Session} {ops : List Operation} {lines : List String}
    (hops : ops.map Operation.line? = lines.map some)
    (hcase : ∀ line ∈ lines, s.settings.casePolicy.normalize line = line) :
    s.answers ops = (s.world.outcomes (lines.map Command.read)).map Answer.outcome ∧
      (s.run ops).world = s.world.applyAll (lines.map Command.read) := by
  induction lines generalizing s ops with
  | nil =>
      obtain rfl := List.map_eq_nil_iff.1 hops
      exact ⟨rfl, rfl⟩
  | cons line lines ih =>
      obtain ⟨op, ops, rfl, hop, hrest⟩ := List.map_eq_cons_iff.1 hops
      cases op with
      | submit line' now =>
          obtain rfl : line' = line := Option.some.inj hop
          have hcommand : s.commandOf line' = Command.read line' := by
            rw [commandOf, hcase line' List.mem_cons_self]
          obtain ⟨hanswers, hworld⟩ := ih (s := (s.submit line' now).1) hrest (by
            intro l hl
            rw [settings_submit]
            exact hcase l (List.mem_cons_of_mem line' hl))
          rw [world_submit, hcommand] at hanswers hworld
          rw [answers_cons, run_cons, perform_submit, submit_snd, hcommand, hanswers, hworld]
          exact ⟨rfl, rfl⟩
      | reset now => cases hop
      | dismiss id => cases hop
      | expire now => cases hop

/-! ### Rebuilding -/

namespace World

/-- A robot reports the text that it is told as. -/
theorem apply_report {w : World} {r : Robot} (h : w.robot = some r) :
    w.apply (Command.read "REPORT") = (some ((Verdict.reported r.text).outcome "REPORT"),
      { w with lastReport := some r.text }.stamped "REPORT" .ok ("REPORT: " ++ r.text)) := by
  have hread : Command.read "REPORT" = ⟨"REPORT", [], "REPORT"⟩ := by decide
  have hjudge : w.judge ⟨"REPORT", [], "REPORT"⟩ =
      (.reported r.text, { w with lastReport := some r.text }) := by
    have hverb : Verb.ofName? "REPORT" = some .report := Verb.ofName?_of_eq .report rfl
    simp only [judge, hverb]
    exact judgeReport_of_robot h
  rw [hread, apply_of_not_isEmpty rfl, hjudge]
  rfl

/-- **Every reachable world can be rebuilt from its own text.**  Its layout, written as lines,
succeeds line by line in an empty world on the same grid and restores grid, robot and walls.  A
session on that grid that is given the lines, whatever its other settings and at whatever times,
answers the same and comes to the same world.  Built without commands, the layout gives a world
with the same grid, robot and walls and with the same digest.  And what a robot reports places that
very robot in every reachable world on the same grid in which no wall stands on its cell. -/
theorem worlds_can_be_rebuilt {side : UInt32} {w : World} (h : Reachable side w) :
    (∃ empty rebuilt built, ofSide side = .ok empty ∧
      (empty.outcomes (w.layout.lines.map Command.read)).map (Option.map Outcome.status) =
        (w.layout.lines.map fun _ => some .ok) ∧
      empty.applyAll (w.layout.lines.map Command.read) = rebuilt ∧ rebuilt.layout = w.layout ∧
      (∀ settings s ops, settings.side = side → Session.start settings = .ok s →
        ops.map Session.Operation.line? = w.layout.lines.map some →
        s.answers ops = (empty.outcomes (w.layout.lines.map Command.read)).map .outcome ∧
          (s.run ops).world = rebuilt) ∧
      w.layout.build = .ok built ∧ built.layout = w.layout ∧ built.digest = rebuilt.digest) ∧
    ∀ r, w.robot = some r → ∃ o v text, w.apply (Command.read "REPORT") = (some o, v) ∧
      o.status = .ok ∧ o.message = "REPORT: " ++ text ∧ v.lastReport = some text ∧
      ∀ t, Reachable side t → r.position ∉ t.walls →
        t.PlacesRobot ("PLACE_ROBOT " ++ text) r := by
  obtain ⟨rfl, hw⟩ := h.sound
  constructor
  · obtain ⟨hstatuses, stamp, hworld⟩ := hw.follows_lines
    refine ⟨_, _, _, hw.ofSide_side, hstatuses, hworld, rfl, ?_, hw.build_layout, rfl, rfl⟩
    intro settings s ops hside hs hops
    obtain ⟨-, rfl⟩ := Session.start_eq_ok_iff.1 hs
    obtain ⟨hanswers, hrun⟩ := Session.answers_of_lines (s := Session.fresh settings) hops
      fun line hline => CasePolicy.normalize_of_isCaseless (Layout.isCaseless_of_mem_lines hline)
    have hstart : (Session.fresh settings).world = { side := w.side } := by
      rw [Session.fresh, hside]
    rw [hstart] at hanswers hrun
    exact ⟨hanswers, hrun.trans hworld⟩
  · intro r hr
    refine ⟨_, _, r.text, apply_report hr, rfl, rfl, rfl, ?_⟩
    intro t ht hwall
    obtain ⟨hside, hsound⟩ := ht.sound
    have hg := hw.robot_onGrid r hr
    rw [← hside] at hg
    exact (placesRobot_iff hsound.side_pos).2 ⟨Command.robotLine_text r, hg, hwall⟩

/-- Two walls and a robot that has reported, on the largest grid there is. -/
def furnished : World :=
  { side := 4096, robot := some ⟨⟨1024, 7⟩, .west⟩, walls := [⟨4096, 1⟩, ⟨10, 4000⟩],
    lastReport := some "1024,7,WEST" }

theorem reachable_furnished : Reachable 4096 furnished := by
  have hempty : ofSide 4096 = .ok { side := 4096 } := rfl
  have hfirst : World.after? { side := 4096 } (.placeWall ⟨4096, 1⟩) =
      some { side := 4096, walls := [⟨4096, 1⟩] } := by decide
  have hsecond : World.after? { side := 4096, walls := [⟨4096, 1⟩] } (.placeWall ⟨10, 4000⟩) =
      some { side := 4096, walls := [⟨4096, 1⟩, ⟨10, 4000⟩] } := by decide
  have hrobot : World.after? { side := 4096, walls := [⟨4096, 1⟩, ⟨10, 4000⟩] }
      (.placeRobot ⟨⟨1024, 7⟩, .west⟩) = some { furnished with lastReport := none } := by decide
  have hreport : ({ furnished with lastReport := none } : World).after? .report =
      some furnished := by decide +kernel
  exact .after (.after (.after (.after (.ofSide hempty) hfirst) hsecond) hrobot) hreport

/-- The lines of the furnished world. -/
theorem lines_furnished : furnished.layout.lines =
    ["PLACE_WALL 4096,1", "PLACE_WALL 10,4000", "PLACE_ROBOT 1024,7,WEST"] := by
  decide +kernel

/-- The hypothesis of `TorusRobot.World.worlds_can_be_rebuilt` is met by the furnished world, which a
session restores from its three lines, and whose robot can be placed on an empty grid. -/
theorem worlds_can_be_rebuilt_furnished :
    Reachable 4096 furnished ∧
      (∃ s, Session.start { side := 4096 } = .ok s ∧
        (s.run [.submit "PLACE_WALL 4096,1" 3, .submit "PLACE_WALL 10,4000" 2,
          .submit "PLACE_ROBOT 1024,7,WEST" 3]).world.layout = furnished.layout) ∧
      PlacesRobot { side := 4096 } "PLACE_ROBOT 1024,7,WEST" ⟨⟨1024, 7⟩, .west⟩ := by
  obtain ⟨⟨empty, rebuilt, built, -, -, -, hlayout, hsessions, -⟩, hreport⟩ :=
    worlds_can_be_rebuilt reachable_furnished
  have hs : Session.start { side := 4096 } = .ok (Session.fresh { side := 4096 }) :=
    Session.start_eq_ok_iff.2 ⟨rfl, rfl⟩
  refine ⟨reachable_furnished, ⟨_, hs, ?_⟩, ?_⟩
  · rw [lines_furnished] at hsessions
    rw [(hsessions _ _ [.submit "PLACE_WALL 4096,1" 3, .submit "PLACE_WALL 10,4000" 2,
      .submit "PLACE_ROBOT 1024,7,WEST" 3] rfl hs rfl).2, hlayout]
  · obtain ⟨o, v, text, happ, -, -, hlast, hplaces⟩ := hreport ⟨⟨1024, 7⟩, .west⟩ rfl
    have htext : (furnished.apply (Command.read "REPORT")).2.lastReport =
        some "1024,7,WEST" := by decide +kernel
    rw [happ, hlast] at htext
    obtain rfl := Option.some.inj htext
    exact hplaces { side := 4096 } (.ofSide rfl) List.not_mem_nil

end World

end TorusRobot
