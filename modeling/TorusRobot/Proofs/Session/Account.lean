/-
**What the messages tell.**

Whoever reads the messages of a session, and nothing else, knows where the robot is, which walls
there are and what was reported last.  Five kinds of message tell of a change, each under a heading
of its own; all the others begin with another word, whatever text was typed, so none of them is
taken for one of the five.

Main definitions:

* `TorusRobot.News` — what a message can tell, and `TorusRobot.News.text`, its wording;
* `TorusRobot.News.read?` — reading a message;
* `TorusRobot.Account` — what is known of a world, and `TorusRobot.Account.hear`, what is known
  after one more message;
* `TorusRobot.World.account` — what there is to know of a world.

Main results:

* `TorusRobot.News.read?_eq_some_iff` — a message is read as what it says and as nothing else;
* `TorusRobot.Verdict.read?_message` — a verdict on a failed command is never read;
* `TorusRobot.World.account_apply` — after every command the message tells what has changed;
* `TorusRobot.Session.messages_tell_the_world` — every run of a session.
-/
import TorusRobot.Proofs.Scenario.Rebuilding

set_option relaxedAutoImplicit false
set_option autoImplicit false

namespace TorusRobot

open Text Decimal

/-! ### Reading positions and robots -/

theorem Text.pieces_digits (n : Nat) : pieces ',' (digits n) = [digits n] :=
  pieces_of_notMem (digits_clear n).2

/-- The position with a row and a column in digits. -/
def Position.ofDigits? (row col : List Char) : Option Position := do
  let row ← magnitude? row
  let col ← magnitude? col
  return ⟨UInt32.ofNat row, UInt32.ofNat col⟩

theorem Position.ofDigits?_digits (p : Position) :
    ofDigits? (digits p.row.toNat) (digits p.col.toNat) = some p := by
  simp [ofDigits?, magnitude?_eq_some_iff.2 (digitRun_digits _)]

/-- The position that a text tells. -/
def Position.ofText? (s : List Char) : Option Position :=
  match pieces ',' s with
  | [row, col] => ofDigits? row col
  | _ => none

theorem Position.ofText?_text (p : Position) : ofText? p.text.toList = some p := by
  simp [ofText?, toList_text, pieces_append_cons, pieces_digits, ofDigits?_digits]

/-- The robot that a text tells. -/
def Robot.ofText? (s : List Char) : Option Robot :=
  match pieces ',' s with
  | [row, col, facing] =>
    match Position.ofDigits? row col, Facing.ofName (String.ofList facing) with
    | some p, .ok f => some ⟨p, f⟩
    | _, _ => none
  | _ => none

theorem Facing.pieces_name (f : Facing) : pieces ',' f.name.toList = [f.name.toList] := by
  cases f <;> decide

theorem Robot.ofText?_text (r : Robot) : ofText? r.text.toList = some r := by
  have hname : Facing.ofName r.facing.name = .ok r.facing := Facing.ofName_eq_ok_iff.2 rfl
  simp [ofText?, toList_text, Position.toList_text, pieces_append_cons, pieces_digits,
    Facing.pieces_name, Position.ofDigits?_digits, hname]

/-! ### No spaces -/

theorem Position.isBlank_of_mem_text {p : Position} {c : Char} (h : c ∈ p.text.toList) :
    isBlank c = false := by
  rw [toList_text, List.mem_append, List.mem_cons] at h
  rcases h with h | rfl | h
  · exact (digits_clear _).1 c h
  · decide
  · exact (digits_clear _).1 c h

theorem Position.notMem_text (p : Position) : ' ' ∉ p.text.toList :=
  fun h => absurd (isBlank_of_mem_text h) (by decide)

theorem Facing.notMem_name (f : Facing) : ' ' ∉ f.name.toList := by
  cases f <;> decide

theorem Robot.notMem_text (r : Robot) : ' ' ∉ r.text.toList := by
  simp [toList_text, r.position.notMem_text, r.facing.notMem_name]

/-! ### News -/

theorem Text.head?_append (heading : String) {c : Char} (h : heading.toList.head? = some c)
    (rest : String) : (heading ++ rest).toList.head? = some c := by
  rw [String.toList_append, List.head?_append, h]
  rfl

/-- What a message can tell. -/
inductive News where
  /-- The robot was placed. -/
  | placed (r : Robot)
  /-- The robot went to another cell. -/
  | moved (p : Position)
  /-- The robot turned. -/
  | turned (f : Facing)
  /-- A wall was placed. -/
  | walled (p : Position)
  /-- The robot reported. -/
  | reported (r : Robot)
deriving DecidableEq, Repr

namespace News

/-- The wording of news. -/
def text : News → String
  | placed r => "OK: PLACED " ++ r.text
  | moved p => "OK: MOVED " ++ p.text
  | turned f => "OK: FACING " ++ f.name
  | walled p => "OK: WALL_PLACED " ++ p.text
  | reported r => "REPORT: " ++ r.text

theorem text_placed (r : Robot) : (placed r).text = "OK: PLACED " ++ r.text := rfl

theorem text_moved (p : Position) : (moved p).text = "OK: MOVED " ++ p.text := rfl

theorem text_turned (f : Facing) : (turned f).text = "OK: FACING " ++ f.name := rfl

theorem text_walled (p : Position) : (walled p).text = "OK: WALL_PLACED " ++ p.text := rfl

theorem text_reported (r : Robot) : (reported r).text = "REPORT: " ++ r.text := rfl

/-- The news that the words of a message stand for, however its numbers are written. -/
def loosely? (message : String) : Option News :=
  match (pieces ' ' message.toList).map String.ofList with
  | ["OK:", "PLACED", robot] => (Robot.ofText? robot.toList).map placed
  | ["OK:", "MOVED", cell] => (Position.ofText? cell.toList).map moved
  | ["OK:", "FACING", facing] => (Facing.ofName facing).toOption.map turned
  | ["OK:", "WALL_PLACED", cell] => (Position.ofText? cell.toList).map walled
  | ["REPORT:", robot] => (Robot.ofText? robot.toList).map reported
  | _ => none

/-- The news that a message tells: it has to be worded as they are. -/
def read? (message : String) : Option News :=
  (loosely? message).filter fun n => n.text = message

/-- The words of a message whose heading is words and spaces. -/
theorem pieces_heading {heading rest : String} (ws : List String)
    (h : ∀ s, pieces ' ' (heading.toList ++ s) = ws.map String.toList ++ pieces ' ' s)
    (hrest : ' ' ∉ rest.toList) :
    (pieces ' ' (heading ++ rest).toList).map String.ofList = ws ++ [rest] := by
  rw [String.toList_append, h, pieces_of_notMem hrest, List.map_append, List.map_map,
    List.map_singleton, String.ofList_toList]
  simp

theorem loosely?_text (n : News) : loosely? n.text = some n := by
  cases n with
  | placed r =>
      rw [text_placed, loosely?, pieces_heading ["OK:", "PLACED"] (fun _ => rfl) r.notMem_text]
      exact congrArg (Option.map placed) r.ofText?_text
  | moved p =>
      rw [text_moved, loosely?, pieces_heading ["OK:", "MOVED"] (fun _ => rfl) p.notMem_text]
      exact congrArg (Option.map moved) p.ofText?_text
  | turned f =>
      rw [text_turned, loosely?, pieces_heading ["OK:", "FACING"] (fun _ => rfl) f.notMem_name]
      cases f <;> rfl
  | walled p =>
      rw [text_walled, loosely?, pieces_heading ["OK:", "WALL_PLACED"] (fun _ => rfl) p.notMem_text]
      exact congrArg (Option.map walled) p.ofText?_text
  | reported r =>
      rw [text_reported, loosely?, pieces_heading ["REPORT:"] (fun _ => rfl) r.notMem_text]
      exact congrArg (Option.map reported) r.ofText?_text

/-- **A message is read as what it says**, and as nothing else. -/
theorem read?_eq_some_iff {message : String} {n : News} :
    read? message = some n ↔ message = n.text := by
  rw [read?, Option.filter_eq_some_iff, decide_eq_true_eq]
  constructor
  · rintro ⟨-, h⟩
    exact h.symm
  · rintro rfl
    exact ⟨loosely?_text n, rfl⟩

/-- All news begin with one of two words. -/
theorem head?_text (n : News) :
    n.text.toList.head? = some 'O' ∨ n.text.toList.head? = some 'R' := by
  cases n with
  | placed r => exact .inl (head?_append "OK: PLACED " rfl _)
  | moved p => exact .inl (head?_append "OK: MOVED " rfl _)
  | turned f => exact .inl (head?_append "OK: FACING " rfl _)
  | walled p => exact .inl (head?_append "OK: WALL_PLACED " rfl _)
  | reported r => exact .inr (head?_append "REPORT: " rfl _)

end News

/-- What is told of a failed command begins with a third word. -/
theorem Verdict.head?_message {v : Verdict} (h : v.status ≠ .ok) :
    v.message.toList.head? = some 'E' := by
  cases v with
  | robotPlaced r => exact absurd rfl h
  | wallPlaced p => exact absurd rfl h
  | moved p => exact absurd rfl h
  | turned f => exact absurd rfl h
  | reported r => exact absurd rfl h
  | badPlacement verb => exact head?_append "ERROR: INVALID " rfl _
  | robotOnWall p => exact head?_append "ERROR: ROBOT_ON_WALL " rfl _
  | wallOnRobot p => exact head?_append "ERROR: WALL_ON_ROBOT " rfl _
  | wallExists p => exact head?_append "ERROR: WALL_EXISTS " rfl _
  | blocked p => exact head?_append "ERROR: BLOCKED " rfl _
  | notPlaced => rfl
  | unknown verb => exact head?_append "ERROR: UNKNOWN_CMD " rfl _

/-- **A failed command tells no news**, whatever was typed. -/
theorem Verdict.read?_message {v : Verdict} (h : v.status ≠ .ok) : News.read? v.message = none := by
  have hhead := v.head?_message h
  rw [Option.eq_none_iff_forall_ne_some]
  intro n hn
  rw [News.read?_eq_some_iff.1 hn] at hhead
  rcases n.head?_text with hn | hn <;> simp [hhead] at hn

/-! ### Accounts -/

/-- What is known of a world: its robot, its walls in order and its last report. -/
structure Account where
  robot : Option Robot := none
  walls : List Position := []
  lastReport : Option String := none
deriving DecidableEq, Repr

namespace Account

/-- What is known after news. -/
def learn (a : Account) : News → Account
  | .placed r => { a with robot := some r }
  | .moved p => { a with robot := a.robot.map fun r => { r with position := p } }
  | .turned f => { a with robot := a.robot.map fun r => { r with facing := f } }
  | .walled p => { a with walls := a.walls ++ [p] }
  | .reported r => { a with lastReport := some r.text }

/-- What is known after a message: a message that tells no news changes nothing. -/
def hear (a : Account) (message : String) : Account := ((News.read? message).map a.learn).getD a

/-- What is known after some messages. -/
def hearAll (a : Account) (messages : List String) : Account := messages.foldl hear a

theorem hear_text (a : Account) (n : News) : a.hear n.text = a.learn n := by
  rw [hear, News.read?_eq_some_iff.2 rfl]
  rfl

theorem hearAll_append (a : Account) (ms ms' : List String) :
    a.hearAll (ms ++ ms') = (a.hearAll ms).hearAll ms' := List.foldl_append

theorem hear_of_status_ne_ok {v : Verdict} (h : v.status ≠ .ok) (a : Account) :
    a.hear v.message = a := by
  rw [hear, Verdict.read?_message h]
  rfl

end Account

namespace World

variable {w : World} {c : Command}

/-- What there is to know of a world. -/
def account (w : World) : Account := ⟨w.robot, w.walls, w.lastReport⟩

@[simp] theorem account_stamped (w : World) (verb : String) (status : Status) (message : String) :
    (w.stamped verb status message).account = w.account := rfl

theorem judgeTurn_of_status_ok {t : Turn} (h : (w.judgeTurn t).1.status = .ok) :
    ∃ n : News, (w.judgeTurn t).1.message = n.text ∧
      (w.judgeTurn t).2.account = w.account.learn n := by
  cases hr : w.robot with
  | none => simp [judgeTurn_of_none t hr, Verdict.status] at h
  | some r =>
      rw [judgeTurn_of_robot t hr]
      exact ⟨.turned _, rfl, by simp [account, Account.learn, hr, Robot.turned]⟩

/-- A command that takes effect tells what has changed. -/
theorem judge_of_status_ok (h : (w.judge c).1.status = .ok) :
    ∃ n : News, (w.judge c).1.message = n.text ∧ (w.judge c).2.account = w.account.learn n := by
  fun_cases judge w c with
  | case1 hv =>
      rw [judge, hv] at h
      obtain ⟨r, hr, hg, hw, -⟩ := judgeRobot_ok_iff.1 ⟨h, rfl⟩
      rw [judgeRobot_of_asks hr hg hw]
      exact ⟨.placed r, rfl, rfl⟩
  | case2 hv =>
      rw [judge, hv] at h
      obtain ⟨p, hp, hg, hr, hw, -⟩ := judgeWall_ok_iff.1 ⟨h, rfl⟩
      rw [judgeWall_of_asks hp hg hr hw]
      exact ⟨.walled p, rfl, rfl⟩
  | case3 hv =>
      rw [judge, hv] at h
      cases hr : w.robot with
      | none => simp [judgeMove_of_none hr, Verdict.status] at h
      | some r =>
          by_cases hw : r.position.step r.facing w.side ∈ w.walls
          · simp [judgeMove_of_wall hr hw, Verdict.status] at h
          · rw [judgeMove_of_free hr hw]
            exact ⟨.moved _, rfl, by simp [account, Account.learn, hr]⟩
  | case4 hv =>
      rw [judge, hv] at h
      exact judgeTurn_of_status_ok h
  | case5 hv =>
      rw [judge, hv] at h
      exact judgeTurn_of_status_ok h
  | case6 hv =>
      rw [judge, hv] at h
      cases hr : w.robot with
      | none => simp [judgeReport_of_none hr, Verdict.status] at h
      | some r =>
          rw [judgeReport_of_robot hr]
          exact ⟨.reported r, rfl, rfl⟩
  | case7 hv => simp [judge, hv, Verdict.status] at h

/-- **Every message tells what has changed**, and nothing else. -/
theorem account_judge (w : World) (c : Command) :
    (w.judge c).2.account = w.account.hear (w.judge c).1.message := by
  by_cases h : (w.judge c).1.status = .ok
  · obtain ⟨n, hmessage, haccount⟩ := judge_of_status_ok h
    rw [hmessage, Account.hear_text, haccount]
  · rw [Account.hear_of_status_ne_ok h, judge_of_status_ne_ok h]

/-- The messages of commands that are carried out one after another. -/
theorem account_apply (w : World) (c : Command) :
    (w.apply c).2.account =
      w.account.hearAll ((w.apply c).1.toList.map Outcome.message) := by
  cases hc : c.isEmpty with
  | true => rw [apply_of_isEmpty hc]; rfl
  | false =>
      rw [apply_of_not_isEmpty hc, account_stamped, account_judge]
      rfl

/-- A message tells news exactly if the command took effect. -/
theorem status_ok_iff_of_apply {o : Outcome} (h : (w.apply c).1 = some o) :
    o.status = .ok ↔ ∃ n, News.read? o.message = some n := by
  cases hc : c.isEmpty with
  | true =>
      rw [apply_of_isEmpty hc] at h
      cases h
  | false =>
      rw [apply_of_not_isEmpty hc] at h
      obtain rfl := Option.some.inj h
      constructor
      · intro hok
        obtain ⟨n, hmessage, -⟩ := judge_of_status_ok hok
        exact ⟨n, News.read?_eq_some_iff.2 hmessage⟩
      · rintro ⟨n, hn⟩
        by_contra hbad
        rw [show Outcome.message _ = (w.judge c).1.message from rfl,
          Verdict.read?_message hbad] at hn
        cases hn

end World

/-! ### Runs -/

namespace Session

/-- Lines that are submitted, each at its time. -/
def submissions (lines : List (String × Nat)) : List Operation :=
  lines.map fun line => .submit line.1 line.2

/-- The messages of a run, in order. -/
def messages (s : Session) (ops : List Operation) : List String :=
  (s.outcomes ops).map Outcome.message

theorem run_submissions_cons (s : Session) (line : String × Nat) (lines : List (String × Nat)) :
    s.run (submissions (line :: lines)) =
      (s.submit line.1 line.2).1.run (submissions lines) := by
  rw [submissions, List.map_cons, run_cons, perform_submit]
  rfl

theorem outcomes_submissions_cons (s : Session) (line : String × Nat)
    (lines : List (String × Nat)) :
    s.outcomes (submissions (line :: lines)) =
      (s.world.apply (s.commandOf line.1)).1.toList ++
        (s.submit line.1 line.2).1.outcomes (submissions lines) := by
  rw [submissions, List.map_cons, outcomes_cons, perform_submit, Answer.outcome?, submit_snd]
  rfl

/-- Who knows the world before a run of lines knows it afterwards from the messages alone. -/
theorem account_run (s : Session) (lines : List (String × Nat)) :
    (s.run (submissions lines)).world.account =
      s.world.account.hearAll (s.messages (submissions lines)) := by
  induction lines generalizing s with
  | nil => rfl
  | cons line lines ih =>
      rw [run_submissions_cons, ih, messages, messages, outcomes_submissions_cons,
        List.map_append, Account.hearAll_append, ← World.account_apply, world_submit]

/-- A message of a run tells news exactly if its command took effect. -/
theorem status_ok_iff_of_mem_outcomes {s : Session} {lines : List (String × Nat)} {o : Outcome}
    (h : o ∈ s.outcomes (submissions lines)) :
    o.status = .ok ↔ ∃ n, News.read? o.message = some n := by
  induction lines generalizing s with
  | nil => cases h
  | cons line lines ih =>
      rw [outcomes_submissions_cons, List.mem_append, Option.mem_toList] at h
      rcases h with h | h
      · exact World.status_ok_iff_of_apply h
      · exact ih h

/-- **The messages tell the whole story.**  A message is read as news exactly if it is worded as
they are.  After every line that is submitted to a fresh session, hearing the messages in order
leads from knowing of an empty world to the robot, the walls in order and the last report of the
session.  And the messages that tell news are those of the commands that took effect, whatever text
was typed. -/
theorem messages_tell_the_world {settings : Settings} {s : Session}
    (h : Session.start settings = .ok s) (lines : List (String × Nat)) :
    (∀ message n, News.read? message = some n ↔ message = n.text) ∧
    (∀ k, (s.run (submissions (lines.take k))).world.account =
      Account.hearAll {} (s.messages (submissions (lines.take k)))) ∧
    ∀ o ∈ s.outcomes (submissions lines),
      o.status = .ok ↔ ∃ n, News.read? o.message = some n := by
  obtain ⟨-, rfl⟩ := start_eq_ok_iff.1 h
  exact ⟨fun _ _ => News.read?_eq_some_iff, fun k => account_run _ _,
    fun o ho => status_ok_iff_of_mem_outcomes ho⟩

/-- Lines, the second of which is worded as news. -/
def boasting : List (String × Nat) :=
  [("PLACE_ROBOT 1,1,NORTH", 0), ("OK: MOVED 5,5", 1), ("PLACE_WALL 3,1", 2), ("MOVE", 3),
    ("MOVE", 4), ("RIGHT", 5), (" ", 6), ("REPORT", 7)]

/-- The hypothesis of `TorusRobot.Session.messages_tell_the_world` is met by the usual settings,
under which a line that is worded as news is told to be no command. -/
theorem messages_tell_the_world_boasting :
    ∃ s, Session.start { casePolicy := .exact } = .ok s ∧
      s.messages (submissions boasting) =
        ["OK: PLACED 1,1,NORTH", "ERROR: UNKNOWN_CMD OK:", "OK: WALL_PLACED 3,1", "OK: MOVED 2,1",
          "ERROR: BLOCKED 3,1", "OK: FACING EAST", "REPORT: 2,1,EAST"] ∧
      Account.hearAll {} (s.messages (submissions boasting)) =
        ⟨some ⟨⟨2, 1⟩, .east⟩, [⟨3, 1⟩], some "2,1,EAST"⟩ := by
  have hstart : Session.start { casePolicy := .exact } =
      .ok (fresh { casePolicy := .exact }) := rfl
  obtain ⟨-, hstory, -⟩ := messages_tell_the_world hstart boasting
  refine ⟨_, hstart, by decide +kernel, ?_⟩
  exact (hstory 8).symm.trans (by decide +kernel)

end Session

end TorusRobot
