/-
**The grammar of what is typed.**

What a line asks for is said here without following the reader through it.  Between blanks a line is
empty, or it begins with a colon and is a control, or it is a command and passed on as it was typed.
A control is the words behind its colon, and there are three of them; everything else behind a colon
is rejected in words.

So whatever console and worker do, and whether or not the recording goes wrong, every line that is
carried out in the session or recorded is one of those that were typed, and it is neither blank nor
a control.

Main definitions:

* `TorusRobot.Console.Input.IsCommand`, `TorusRobot.Console.Input.ControlWords` — lines that are
  commands, and the words of those that are controls;
* `TorusRobot.Console.Input.Asks` — what a line asks for;
* `TorusRobot.Console.Sifted` — what holds between any two moves.

Main results:

* `TorusRobot.Console.Input.ofLine_eq_iff` — **the reader follows the grammar**;
* `TorusRobot.Console.Sifted.step` — every move keeps to commands;
* `TorusRobot.Console.controls_never_arrive` — every line, and every run.
-/
import TorusRobot.Proofs.Console.Events
import TorusRobot.Proofs.Console.Steady
import TorusRobot.Proofs.Text.Cutting
import TorusRobot.Proofs.Text.Numeral

set_option relaxedAutoImplicit false
set_option autoImplicit false

namespace TorusRobot

open Recording Text

namespace Console

open Dispatcher (accepted collected operations rounds)

/-! ### One line -/

namespace Input

/-- Between blanks the line is not empty, and it does not begin with a colon. -/
def IsCommand (line : String) : Prop :=
  trim line.toList ≠ [] ∧ (trim line.toList).head? ≠ some ':'

/-- Between blanks the line begins with a colon, and behind that these are its words: what is
between blanks, unless nothing is. -/
def ControlWords (line : String) (ws : List String) : Prop :=
  ∃ rest, trim line.toList = ':' :: rest ∧
    ((rest.splitOnP isBlank).filter fun w => w ≠ []).map String.ofList = ws

/-- What a line asks for. -/
inductive Asks (line : String) : Input → Prop where
  | skip (h : ∀ c ∈ line.toList, Text.isBlank c = true) : Asks line .skip
  /-- The line is passed on as it was typed. -/
  | command (h : IsCommand line) : Asks line (.request (.submit line))
  | reset (h : ControlWords line ["reset"]) : Asks line (.request .reset)
  | quit (h : ControlWords line ["quit"]) : Asks line .quit
  | dismiss {id : String} {n : Nat} (h : ControlWords line ["dismiss", id])
      (hn : NaturalNumeral id.toList n) (hlt : n < 2 ^ 64) : Asks line (.request (.dismiss n))
  | noNumber {id : String} (h : ControlWords line ["dismiss", id])
      (hn : ∀ n, NaturalNumeral id.toList n → 2 ^ 64 ≤ n) :
      Asks line (.rejected ("not a notification id: " ++ id))
  | unknown {ws : List String} (h : ControlWords line ws) (hreset : ws ≠ ["reset"])
      (hquit : ws ≠ ["quit"]) (hdismiss : ∀ id, ws ≠ ["dismiss", id]) :
      Asks line (.rejected ("unknown control: " ++ String.ofList (trim line.toList)))

variable {line : String} {ws : List String} {i : Input}

/-- A control asks for what its words ask for. -/
theorem ofLine_of_controlWords (h : ControlWords line ws) :
    ofLine line = ofWords (String.ofList (trim line.toList)) ws := by
  obtain ⟨rest, hline, rfl⟩ := h
  rw [ofLine, hline, ← words_eq]
  rfl

theorem ofLine_of_isCommand (h : IsCommand line) : ofLine line = .request (.submit line) := by
  obtain ⟨hne, hcolon⟩ := h
  unfold ofLine
  split
  · rename_i htrim
    exact absurd htrim hne
  · rename_i rest htrim
    rw [htrim] at hcolon
    exact absurd rfl hcolon
  · rfl

/-- A numeral is read as the number of a notice if the number is one. -/
theorem naturalBelow?_idBound {id : String} {n : Nat} :
    Decimal.naturalBelow? idBound id.toList = some n ↔
      NaturalNumeral id.toList n ∧ n < 2 ^ 64 :=
  Decimal.naturalBelow?_eq_some_iff

/-- The words of a control ask for what the grammar says. -/
theorem asks_of_controlWords (h : ControlWords line ws) :
    Asks line (ofWords (String.ofList (trim line.toList)) ws) := by
  fun_cases ofWords (String.ofList (trim line.toList)) ws with
  | case1 => exact .reset h
  | case2 => exact .quit h
  | case3 id n hn =>
      obtain ⟨hnumeral, hlt⟩ := naturalBelow?_idBound.1 hn
      exact .dismiss h hnumeral hlt
  | case4 id hn =>
      refine .noNumber h fun n hnumeral => ?_
      by_contra hlt
      rw [naturalBelow?_idBound.2 ⟨hnumeral, Nat.lt_of_not_le hlt⟩] at hn
      cases hn
  | case5 ws hreset hquit hdismiss => exact .unknown h hreset hquit hdismiss

/-- A line asks for what it is read as. -/
theorem asks_ofLine (line : String) : Asks line (ofLine line) := by
  cases htrim : trim line.toList with
  | nil =>
      rw [ofLine, htrim]
      rw [trim_eq_nil_iff, allBlank, List.all_eq_true] at htrim
      exact .skip htrim
  | cons c rest =>
      by_cases hc : c = ':'
      · subst hc
        have hwords : ControlWords line _ := ⟨rest, htrim, rfl⟩
        rw [ofLine_of_controlWords hwords]
        exact asks_of_controlWords hwords
      · have hcommand : IsCommand line := by
          rw [IsCommand, htrim]
          exact ⟨List.cons_ne_nil c rest, fun h => hc (Option.some.inj h)⟩
        rw [ofLine_of_isCommand hcommand]
        exact .command hcommand

/-- A line is read as what it asks for. -/
theorem Asks.ofLine_eq (h : Asks line i) : ofLine line = i := by
  cases h with
  | skip h =>
      rw [ofLine_eq_skip_iff, allBlank, List.all_eq_true]
      exact h
  | command h => exact ofLine_of_isCommand h
  | reset h => rw [ofLine_of_controlWords h, ofWords]
  | quit h => rw [ofLine_of_controlWords h, ofWords]
  | dismiss h hn hlt =>
      rw [ofLine_of_controlWords h, ofWords, naturalBelow?_idBound.2 ⟨hn, hlt⟩]
  | @noNumber id h hn =>
      have hnone : Decimal.naturalBelow? idBound id.toList = none := by
        rw [Option.eq_none_iff_forall_ne_some]
        intro n hsome
        obtain ⟨hnumeral, hlt⟩ := naturalBelow?_idBound.1 hsome
        exact absurd hlt (Nat.not_lt_of_le (hn n hnumeral))
      rw [ofLine_of_controlWords h, ofWords, hnone]
  | unknown h hreset hquit hdismiss =>
      rw [ofLine_of_controlWords h, ofWords]
      · exact hreset
      · exact hquit
      · exact hdismiss

/-- **The reader follows the grammar.** -/
theorem ofLine_eq_iff : ofLine line = i ↔ Asks line i :=
  ⟨fun h => h ▸ asks_ofLine line, Asks.ofLine_eq⟩

/-- Only a command is passed on as a line, and it is that line. -/
theorem isCommand_of_ofLine {l : String} (h : ofLine line = .request (.submit l)) :
    l = line ∧ IsCommand line := by
  cases ofLine_eq_iff.1 h with
  | command hcommand => exact ⟨rfl, hcommand⟩

end Input

/-! ### Whole runs -/

/-- The request is what one of the lines asks for. -/
def Typed (lines : List String) (r : Request) : Prop :=
  ∃ line ∈ lines, Input.ofLine line = .request r

/-- A line that is passed on was typed, and it is a command. -/
theorem Typed.isCommand {lines : List String} {line : String} (h : Typed lines (.submit line)) :
    line ∈ lines ∧ Input.IsCommand line := by
  obtain ⟨typed, hmem, htyped⟩ := h
  obtain ⟨rfl, hcommand⟩ := Input.isCommand_of_ofLine htyped
  exact ⟨hmem, hcommand⟩

/-- All requests on their way are what the lines ask for, and what was added to the recording are
entries of the events that were taken. -/
structure Sifted (lines : List String) (recorder : Option Writer) (moves : List Move) (x : Moment) :
    Prop where
  unread : x.input ⊆ lines
  waits : ∀ r, x.console.waiting = some r → Typed lines r
  passed : ∀ r ∈ accepted (inner moves), Typed lines r
  recorded : ∃ entries : List Entry,
    x.console.recorder = recorder.map (fun w => (Writer.recordEach entries w).2) ∧
    ∀ entry ∈ entries, ∃ e ∈ collected (inner moves), e.request? = some entry.request

/-- A request waits that waited before, or the line asks for it. -/
theorem waiting_readLine {c : Console} {line : String} {r : Request}
    (h : (c.readLine line).waiting = some r) :
    c.waiting = some r ∨ Input.ofLine line = .request r := by
  unfold readLine at h
  split at h
  · split at h
    · rename_i r' hline
      obtain rfl := Option.some.inj h
      exact .inr hline
    · exact .inl h
    · exact .inl h
    · exact .inl h
  · exact .inl h

/-- Confirming a recording adds nothing to it. -/
theorem exists_confirm_eq (c : Console) : ∃ fault, c.confirm = { c with fault := fault } := by
  obtain ⟨dispatcher, recorder, waiting, reading, printed, fault⟩ := c
  cases fault with
  | some fault => exact ⟨some fault, rfl⟩
  | none =>
      cases recorder with
      | none => exact ⟨none, rfl⟩
      | some w =>
          have hsame := w.flush_snd
          cases hflush : w.flush with
          | mk result w' =>
              rw [hflush] at hsame
              obtain rfl : w' = w := hsame
              cases result with
              | ok => exact ⟨none, by simp [confirm, hflush]⟩
              | error fault => exact ⟨some fault, by simp [confirm, hflush]⟩

/-- Handling an event adds at most its entry to the recording. -/
theorem recorder_handleEvent (c : Console) (e : Event) :
    (c.handleEvent e).recorder = c.recorder ∨
      ∃ entry : Entry, e.request? = some entry.request ∧
        (c.handleEvent e).recorder =
          c.recorder.map fun w => (Writer.record entry.action entry.world w).2 := by
  cases hfault : c.fault with
  | some fault => simp [handleEvent, hfault]
  | none =>
      cases hrecorder : c.recorder with
      | none => simp [handleEvent, hfault, print, hrecorder]
      | some w =>
          have hadded : (c.handleEvent e).recorder =
              some (record c.dispatcher.session.settings e w).2 := by
            cases hrecord : record c.dispatcher.session.settings e w with
            | mk result w' => cases result <;> simp [handleEvent, hfault, print, hrecorder, hrecord]
          rw [hadded, record_eq]
          have hrequest := e.map_request_entry? c.dispatcher.session.settings
          cases hentry : e.entry? c.dispatcher.session.settings with
          | none => exact .inl rfl
          | some entry =>
              rw [hentry, Option.map_some, eq_comm, Option.filter_eq_some_iff] at hrequest
              exact .inr ⟨entry, hrequest.1, rfl⟩

namespace Sifted

variable {lines : List String} {recorder : Option Writer} {moves : List Move} {x y : Moment}

/-- The entries of the events that were taken stay so after another move. -/
theorem recorded_concat (h : Sifted lines recorder moves x) (m : Move) :
    ∃ entries : List Entry,
      x.console.recorder = recorder.map (fun w => (Writer.recordEach entries w).2) ∧
      ∀ entry ∈ entries,
        ∃ e ∈ collected (inner (moves ++ [m])), e.request? = some entry.request := by
  obtain ⟨entries, hentries, hfrom⟩ := h.recorded
  refine ⟨entries, hentries, fun entry hentry => ?_⟩
  obtain ⟨e, he, hrequest⟩ := hfrom entry hentry
  rw [inner_concat, Dispatcher.collected_append]
  exact ⟨e, List.mem_append_left _ he, hrequest⟩

/-- Moves that bring no request and take no event. -/
theorem quiet (h : Sifted lines recorder moves x) {m : Move} (hinput : y.input ⊆ x.input)
    (hwaiting : ∀ r, y.console.waiting = some r → Typed lines r)
    (haccepted : accepted m.inner = []) (hrecorder : y.console.recorder = x.console.recorder) :
    Sifted lines recorder (moves ++ [m]) y where
  unread := List.Subset.trans hinput h.unread
  waits := hwaiting
  passed := by
    rw [inner_concat, Dispatcher.accepted_append, haccepted, List.append_nil]
    exact h.passed
  recorded := by
    rw [hrecorder]
    exact h.recorded_concat m

/-- An event is taken. -/
theorem take (h : Sifted lines recorder moves x) {e : Event} {d : Dispatcher} {next : Phase}
    (htake : x.console.dispatcher.take? = some (e, d)) :
    Sifted lines recorder (moves ++ [.take e])
      { x with
        console := x.console.takeEvent
        phase := x.console.takeEvent.phaseUnlessFault next } := by
  have htaken := takeEvent_of_some htake
  have hcollected : collected (inner (moves ++ [.take e])) = collected (inner moves) ++ [e] := by
    rw [inner_concat]
    exact Dispatcher.collected_concat _ _
  refine ⟨h.unread, ?_, ?_, ?_⟩
  · dsimp only
    rw [htaken, waiting_handleEvent]
    exact h.waits
  · rw [inner_concat, Dispatcher.accepted_append]
    simpa [accepted, Move.inner, Dispatcher.Move.accepted?] using h.passed
  · obtain ⟨entries, hentries, hbefore⟩ := h.recorded_concat (.take e)
    dsimp only
    rw [htaken]
    rcases recorder_handleEvent { x.console with dispatcher := d } e with
      hsame | ⟨entry, hrequest, hadded⟩
    · exact ⟨entries, hsame.trans hentries, hbefore⟩
    · refine ⟨entries ++ [entry], ?_, ?_⟩
      · rw [hadded, show ({ x.console with dispatcher := d } : Console).recorder = _ from hentries,
          Option.map_map]
        congr 1
        funext w
        exact (Writer.recordEach_concat entries entry w).symm
      · rw [List.forall_mem_append]
        refine ⟨hbefore, List.forall_mem_singleton.2 ⟨e, ?_, hrequest⟩⟩
        rw [hcollected]
        exact List.mem_append_right _ (List.mem_singleton.2 rfl)

/-- **Every move keeps to commands**, whether or not something goes wrong. -/
theorem step (h : Sifted lines recorder moves x) {m : Move} (hm : Step x m y) :
    Sifted lines recorder (moves ++ [m]) y := by
  cases hm with
  | @read line rest hphase hinput =>
      have hunread := h.unread
      rw [hinput] at hunread
      refine h.quiet ?_ ?_ rfl (recorder_readLine _ _)
      · rw [hinput]
        exact List.subset_cons_self line rest
      · intro r hr
        rcases waiting_readLine hr with hwaited | hline
        · exact h.waits r hwaited
        · exact ⟨line, hunread List.mem_cons_self, hline⟩
  | take hphase htake => exact h.take htake
  | @accept r d hphase hwaiting hsend =>
      refine ⟨h.unread, fun r hr => ?_, ?_, ?_⟩
      · cases hr
      · rw [inner_concat, Dispatcher.accepted_append, List.forall_mem_append]
        exact ⟨h.passed, List.forall_mem_singleton.2 (h.waits r hwaiting)⟩
      · exact h.recorded_concat _
  | confirm hphase hevents =>
      obtain ⟨fault, hsame⟩ := exists_confirm_eq x.console
      refine h.quiet (List.Subset.refl _) ?_ rfl ?_
      · dsimp only
        rw [hsame]
        exact h.waits
      · dsimp only
        rw [hsame]
  | background hm hstep =>
      obtain ⟨-, -, -, haccepted, -⟩ := accepting_of_background hstep hm
      exact h.quiet (List.Subset.refl _) h.waits haccepted rfl
  | endInput | refuse | close | join | lose =>
      exact h.quiet (List.Subset.refl _) h.waits rfl rfl

theorem start (s : Session) (capacity : Nat) (recorder : Option Writer) (lines : List String)
    (clock : Nat) :
    Sifted lines recorder []
      (.start { dispatcher := .ofSession s capacity, recorder := recorder } lines clock) where
  unread := List.Subset.refl lines
  waits r hr := by cases hr
  passed := List.forall_mem_nil _
  recorded := ⟨[], Option.map_id'.symm, List.forall_mem_nil _⟩

end Sifted

/-- **Every run keeps to commands.** -/
theorem Run.sifted {lines : List String} {recorder : Option Writer} {x y : Moment}
    {moves : List Move} (h : Run x moves y) (hx : Sifted lines recorder [] x) :
    Sifted lines recorder moves y := by
  induction h with
  | refl => exact hx
  | snoc _ hm ih => exact ih.step hm

/-- A line is carried out where it was the request of a round. -/
theorem mem_requests_of_mem_operations {moves : List Dispatcher.Move} {line : String} {now : Nat}
    (h : .submit line now ∈ operations moves) :
    .submit line ∈ (rounds moves).filterMap Round.request? := by
  obtain ⟨round, hround, hop⟩ := List.mem_flatMap.1 h
  refine List.mem_filterMap.2 ⟨round, hround, ?_⟩
  rw [Round.operations, Round.asked, List.mem_append] at hop
  rcases hop with hop | hop
  · rw [Option.mem_toList, Option.map_eq_some_iff] at hop
    obtain ⟨r, hr, hline⟩ := hop
    cases r with
    | submit line' =>
        obtain ⟨rfl, -⟩ := Session.Operation.submit.inj hline
        exact hr
    | reset => cases hline
    | dismiss id => cases hline
  · cases List.mem_singleton.1 hop

/-- **What is typed follows its grammar, and controls never arrive.**  A line is read as what it
asks for, and as nothing else.  Whatever console, worker and clock do, and whatever becomes of the
recording: the session is one in which certain operations were carried out one after another, and
every line among them was typed and is a command; and what was added to the recording are entries,
and every line in these was typed and is a command. -/
theorem controls_never_arrive :
    (∀ line i, Input.ofLine line = i ↔ Input.Asks line i) ∧
    ∀ (s : Session) (capacity : Nat) (recorder : Option Writer) (lines : List String)
      (clock : Nat) (moves : List Move) (x : Moment),
      Run (.start { dispatcher := .ofSession s capacity, recorder := recorder } lines clock)
        moves x →
      x.console.dispatcher.session.run x.stage.owed = s.run (operations (inner moves)) ∧
      (∀ line now, .submit line now ∈ operations (inner moves) →
        line ∈ lines ∧ Input.IsCommand line) ∧
      ∃ entries : List Entry,
        x.console.recorder = recorder.map (fun w => (Writer.recordEach entries w).2) ∧
        ∀ entry ∈ entries, ∀ line status, entry.action = .command line status →
          line ∈ lines ∧ Input.IsCommand line := by
  refine ⟨fun line i => Input.ofLine_eq_iff, ?_⟩
  intro s capacity recorder lines clock moves x h
  have hsifted := h.sifted (Sifted.start s capacity recorder lines clock)
  have hserial := h.inner.serial (Dispatcher.Serial.ofSession s capacity clock)
  have hhandled {line : String}
      (hline : .submit line ∈ (rounds (inner moves)).filterMap Round.request?) :
      line ∈ lines ∧ Input.IsCommand line := by
    refine Typed.isCommand (hsifted.passed _ ?_)
    rw [hserial.requests, List.append_assoc]
    exact List.mem_append_left _ hline
  refine ⟨hserial.session, fun line now hline => ?_, ?_⟩
  · exact hhandled (mem_requests_of_mem_operations hline)
  · obtain ⟨entries, hentries, hfrom⟩ := hsifted.recorded
    refine ⟨entries, hentries, fun entry hentry line status haction => ?_⟩
    obtain ⟨e, he, hrequest⟩ := hfrom entry hentry
    rw [Entry.request, haction, Action.request] at hrequest
    -- the event answers a request that was handled
    have hanswered : .submit line ∈
        (collected (inner moves) ++ x.inner.dispatcher.events).filterMap Event.request? :=
      List.mem_filterMap.2 ⟨e, List.mem_append_left _ he, hrequest⟩
    rw [hserial.answered] at hanswered
    exact hhandled (List.mem_of_mem_filter hanswered)

/-- Controls that are none, a line that is a command, and the end. -/
def mistyped : List String := [":dismiss +1x", " : quit now", " MOVE ", ":quit", "MOVE"]

/-- A console to which these lines are typed. -/
def mistyping : List Move :=
  [.read ":dismiss +1x", .read " : quit now", .read " MOVE ", .accept (.submit " MOVE "),
    .background (.receive (.submit " MOVE ")), .background (.look 0), .read ":quit", .close,
    .background (.handle ⟨some (.submit " MOVE "), 0⟩), .background .clear, .background .stop,
    .join]

theorem run_mistyping : ∃ x,
    Run (.start { dispatcher := .ofSession (.fresh {}) 1, recorder := some { sink := {} } }
      mistyped 0) mistyping x :=
  ⟨_,
    .cons (.read rfl rfl) <| .cons (.read rfl rfl) <| .cons (.read rfl rfl) <|
    .cons (.accept rfl rfl rfl) <| .cons (.background rfl (.receive rfl rfl rfl)) <|
    .cons (.background rfl (.look rfl rfl)) <| .cons (.read rfl rfl) <| .cons (.close rfl) <|
    .cons (.background rfl (.handle rfl rfl)) <| .cons (.background rfl (.clear rfl rfl)) <|
    .cons (.background rfl (.stop rfl rfl rfl rfl)) <| .single (.join rfl rfl)⟩

/-- The number of a notice may have leading zeros and a plus sign, and the greatest one is below
two to the power of 64.  Of the lines of `TorusRobot.Console.mistyped` one is carried out. -/
theorem controls_never_arrive_mistyped :
    Input.ofLine " :  dismiss +007 " = .request (.dismiss 7) ∧
    Input.ofLine ":dismiss 18446744073709551616" =
      .rejected "not a notification id: 18446744073709551616" ∧
    Input.ofLine " : quit now" = .rejected "unknown control: : quit now" ∧
    ∃ x, Run (.start { dispatcher := .ofSession (.fresh {}) 1, recorder := some { sink := {} } }
        mistyped 0) mistyping x ∧
      x.console.dispatcher.session.run x.stage.owed =
        Session.run (.fresh {}) [.submit " MOVE " 0, .expire 0] ∧
      Input.IsCommand " MOVE " := by
  obtain ⟨hgrammar, hruns⟩ := controls_never_arrive
  have hzeros : Input.ControlWords " :  dismiss +007 " ["dismiss", "+007"] :=
    ⟨"  dismiss +007".toList, by decide, by decide⟩
  have hgreat : Input.ControlWords ":dismiss 18446744073709551616"
      ["dismiss", "18446744073709551616"] :=
    ⟨"dismiss 18446744073709551616".toList, by decide, by decide⟩
  have hquit : Input.ControlWords " : quit now" ["quit", "now"] :=
    ⟨" quit now".toList, by decide, by decide⟩
  have hvalue : Decimal.natural? "18446744073709551616".toList = some (2 ^ 64) := by decide
  obtain ⟨x, hx⟩ := run_mistyping
  obtain ⟨hsession, hlines, -⟩ := hruns _ _ _ _ _ _ _ hx
  refine ⟨(hgrammar _ _).2 ?_, (hgrammar _ _).2 ?_, (hgrammar _ _).2 ?_, x, hx, hsession, ?_⟩
  · exact .dismiss hzeros (.plus ⟨by decide, List.all_eq_true.1 (by decide), by decide⟩) (by decide)
  · refine .noNumber hgreat fun n hn => ?_
    rw [← Decimal.natural?_eq_some_iff, hvalue] at hn
    exact Nat.le_of_eq (Option.some.inj hn)
  · exact .unknown hquit (by decide) (by decide) fun id => by simp
  · exact (hlines _ 0 (by decide)).2

end Console

end TorusRobot
