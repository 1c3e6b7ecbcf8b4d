/-
**What is recorded can be verified.**

The program records a session from events that reach the console at any time, and verifies it by
doing everything again in a session of its own, which it makes of nothing but the header.  The two
agree.  Whatever the lines are, and in whatever order console and worker make their moves, the
recording comes to its end, it holds what the lines ask for and the digests of the worlds that the
session really had, and verifying it finds no divergence.

Main definitions:

* `TorusRobot.Console.IsRecording` — bytes that are the recording of a session.

Main results:

* `TorusRobot.Console.Faithful.isRecording_of_ended` — at the end there is a recording;
* `TorusRobot.Console.verifyAt_of_isRecording` — a recording can be verified;
* `TorusRobot.Console.recording_and_verifying_agree` — **recording and verifying agree**.
-/
import TorusRobot.Console.Program
import TorusRobot.Proofs.Console.Schedule

set_option relaxedAutoImplicit false
set_option autoImplicit false

namespace TorusRobot

open Recording Replay
open Session (Operation fresh)

/-- Frames are made of the requests that their entries are made of. -/
theorem Recording.Writer.map_request_framesBehind (n : Nat) (es : List Entry) :
    (framesBehind n es).map (fun f => f.action.request) = es.map Entry.request := by
  induction es generalizing n with
  | nil => rfl
  | cons e es ih =>
      rw [framesBehind, List.map_cons, List.map_cons, ih]
      rfl

namespace Console

open Dispatcher (operations)

/-! ### At the start -/

/-- The settings of the program are valid on every grid. -/
theorem check_settingsOf {side : UInt32} (hside : 1 ≤ side.toNat ∧ side.toNat ≤ 4096) :
    (settingsOf side).check = .ok () :=
  Settings.check_eq_ok_iff.2 ⟨hside, nofun, nofun, nofun, nofun⟩

theorem start_settingsOf {side : UInt32} (hside : 1 ≤ side.toNat ∧ side.toNat ≤ 4096) :
    Session.start (settingsOf side) = .ok (fresh (settingsOf side)) :=
  Session.start_eq_ok_iff.2 ⟨check_settingsOf hside, rfl⟩

/-- The writer of a recording that has just started. -/
def headed (h : Header) : Writer := { sink := { written := (#[] : Array UInt8) ++ h.bytes } }

theorem bytes_extend_headed (h : Header) (fs : List Frame) :
    ((headed h).extend fs).sink.bytes = h.bytes ++ fs.flatMap Frame.bytes := by
  have hheader : (headed h).sink.bytes = h.bytes := Sink.bytes_append {} h.bytes
  rw [Writer.bytes_extend, hheader]

/-- The console with which a recording starts. -/
def recording (side : UInt32) (p : Provenance) : Console :=
  { dispatcher := .ofSession (fresh (settingsOf side)) Dispatcher.defaultCapacity
    recorder := some (headed (Header.ofSettings p (settingsOf side))) }

theorem open?_eq {side : UInt32} {p : Provenance} (hside : 1 ≤ side.toNat ∧ side.toNat ≤ 4096)
    (hp : (Header.ofSettings p (settingsOf side)).Fits) :
    Console.open? side p true = .ok (recording side p) := by
  have hstart : Writer.start (Header.ofSettings p (fresh (settingsOf side)).settings) {} =
      (.ok (), headed (Header.ofSettings p (settingsOf side))) :=
    Writer.start_of_fits rfl hp
  simp only [Console.open?, start_settingsOf hside, Console.start, hstart, if_true]
  rfl

theorem recordable_headed {h : Header} {lines : List String}
    (htext : ∀ line, .submit line ∈ requestsOf lines → TextFits line) :
    Recordable (headed h) lines :=
  ⟨rfl, rfl, rfl, htext⟩

/-! ### At the end -/

/-- Bytes that are the recording of a session of which requests were made, when operations were done
to it. -/
structure IsRecording (settings : Settings) (p : Provenance) (requests : List Request)
    (ops : List Operation) (bytes : List UInt8) (fs : List Frame) : Prop where
  /-- The bytes are read as these frames and nothing else. -/
  reads : ∃ r r', Reader.ofSource { pending := bytes } = .ok r ∧
    r.header = Header.ofSettings p settings ∧ r.readAll = (fs, .ok (), r')
  /-- The frames are numbered one after another. -/
  numbers : fs.map Frame.seq = (List.range' 1 fs.length).map UInt64.ofNat
  /-- There is one for every line and for every reset, and the lines are as they were typed. -/
  requests : fs.map (fun f => f.action.request) = requests.filter Request.isRecorded
  /-- The digests are those of the worlds that the session had, behind a reset too. -/
  frames : fs = framesOf (fresh settings) 0 ops

/-- The bytes of the frames of a session, behind a header. -/
theorem isRecording_of_bytes {settings : Settings} {p : Provenance} {requests : List Request}
    {ops : List Operation} (hp : (Header.ofSettings p settings).Fits)
    (hops : ∀ op ∈ ops, OperationFits op)
    (hrequests : (entriesOf (fresh settings) ops).map Entry.request =
      requests.filter Request.isRecorded) :
    IsRecording settings p requests ops
      ((Header.ofSettings p settings).bytes ++
        (framesOf (fresh settings) 0 ops).flatMap Frame.bytes)
      (framesOf (fresh settings) 0 ops) := by
  let source : Source := { pending := (Header.ofSettings p settings).bytes ++
    (framesOf (fresh settings) 0 ops).flatMap Frame.bytes }
  obtain ⟨r, hopen, hheader, hlasts, hpending⟩ :=
    Reader.ofSource_of_pending (s := source) rfl hp rfl
  obtain ⟨r', hread⟩ := Reader.readAll_of_pending_end hlasts (fits_of_mem_framesOf hops) hpending
  refine ⟨⟨r, r', hopen, hheader, hread⟩, ?_, ?_, rfl⟩
  · rw [framesOf_eq, Writer.map_seq_framesBehind, Writer.length_framesBehind]
  · rw [framesOf_eq, Writer.map_request_framesBehind, hrequests]

/-- **At the end there is a recording** of all that was asked for. -/
theorem Faithful.isRecording_of_ended {settings : Settings} {p : Provenance} {lines : List String}
    {moves : List Move} {x : Moment} (hcheck : settings.check = .ok ())
    (hp : (Header.ofSettings p settings).Fits)
    (hw : Recordable (headed (Header.ofSettings p settings)) lines)
    (h : Faithful (fresh settings) (headed (Header.ofSettings p settings)) lines moves x)
    (hphase : x.phase = .ended) :
    x.console.dispatcher.session = (fresh settings).run (operations (inner moves)) ∧
      ∃ bytes fs, x.console.recording? = some bytes ∧
        IsRecording settings p (requestsOf lines) (operations (inner moves)) bytes fs := by
  have hworld := Session.reachable_start (Session.start_eq_ok_iff.2 ⟨hcheck, rfl⟩)
  obtain ⟨hrecorder, hsession, hrequests⟩ := h.recorder_of_ended hworld hphase
  refine ⟨hsession, _, _, ?_, isRecording_of_bytes hp (h.operationFits hw) hrequests⟩
  rw [recording?, hrecorder, ← bytes_extend_headed]

/-- The session counts the lines and the resets that were asked for. -/
theorem IsRecording.counts {settings : Settings} {p : Provenance} {requests : List Request}
    {ops : List Operation} {bytes : List UInt8} {fs : List Frame}
    (h : IsRecording settings p requests ops bytes fs) :
    ((fresh settings).run ops).tally.commands = requests.countP Request.isLine ∧
      ((fresh settings).run ops).tally.resets = requests.count .reset := by
  have hentries : (entriesOf (fresh settings) ops).map Entry.request =
      requests.filter Request.isRecorded := by
    rw [← h.requests, h.frames, framesOf_eq, Writer.map_request_framesBehind]
  have hline : (fun r : Request => r.isLine && r.isRecorded) = Request.isLine := by
    funext r
    cases r <;> rfl
  obtain ⟨hcommands, hresets⟩ := (fresh settings).counts_run ops
  rw [hcommands, hresets, hentries, List.countP_filter, hline, List.count_filter rfl]
  exact ⟨Nat.zero_add _, Nat.zero_add _⟩

/-- Only two counts are told. -/
theorem verifiedText_congr {t t' : Tally} (hcommands : t.commands = t'.commands)
    (hresets : t.resets = t'.resets) : verifiedText t = verifiedText t' := by
  delta verifiedText
  rw [hcommands, hresets]

/-- **A recording can be verified**, at any times, and the counts of the session are told. -/
theorem verifyAt_of_isRecording {side : UInt32} {p : Provenance} {requests : List Request}
    {ops : List Operation} {bytes : List UInt8} {fs : List Frame} {path : String}
    {files : FileStore} (hside : 1 ≤ side.toNat ∧ side.toNat ≤ 4096)
    (h : IsRecording (settingsOf side) p requests ops bytes fs)
    (hopen : files.open? path = .ok (.file bytes)) (clock : Nat → Nat) :
    verifyAt path clock files =
      { code := 0
        printed := [verifiedText ((fresh (settingsOf side)).run ops).tally]
        files := files } := by
  have hstart := start_settingsOf hside
  obtain ⟨⟨r, r', hsource, hheader, hread⟩, -, -, hframes⟩ := h
  rw [hframes] at hread
  -- the settings made of the header are those of the recorded session
  have hside' : r.header.side = side := by
    rw [hheader]
    rfl
  have haccepts : (fresh (settingsOf side)).accepts r.header = true := by
    rw [hheader]
    exact accepts_ofSettings rfl rfl
  obtain ⟨hresult, halike⟩ :=
    verify_of_readAll (Session.alike_start hstart hstart rfl rfl) haccepts hread clock
  have htext := verifiedText_congr halike.commands halike.resets
  simp only [verifyAt, hopen, verify, hsource, hside', hstart, hresult, htext]

/-- A recording is what a console without a fault leaves at its location. -/
theorem report_of_recording {c : Console} {bytes : List UInt8} (hfault : c.fault = none)
    (hbytes : c.recording? = some bytes) (l : Location) (files : FileStore) :
    c.report (some l) files =
      { code := 0, printed := c.printed.toList, files := files.insert l bytes } := by
  simp only [report, hbytes, hfault]

/-! ### Recording, then verifying -/

/-- **Recording and verifying agree.**  On a grid with a side from 1 to 4096, and where a file can
be made at the path, a session is recorded for anything that is typed, as long as no line that is
passed on is too long.  Then, in whatever order console and worker make their moves:

* nothing goes wrong; until the end there always is a move that does not only let time pass, and
  the number of such moves is bounded, but for the times that the worker wakes up without a request;
* at the end the file holds the recording of the session that there really was: its frames are
  numbered from one, they are those of the lines that are no controls and of the resets, up to the
  end of the input, in their order and as they were typed, and the digests are those of the worlds
  of the session;
* then verifying the file finds no divergence and tells how many lines and resets there were.

What the program does is one of these runs. -/
theorem recording_and_verifying_agree {side : UInt32} {p : Provenance} {path : String}
    {l : Location} {files : FileStore} {stdin : List UInt8}
    (hside : 1 ≤ side.toNat ∧ side.toNat ≤ 4096)
    (hp : (Header.ofSettings p (settingsOf side)).Fits) (hlocate : files.locate path = .ok l)
    (htext : ∀ line, .submit line ∈ requestsOf (linesOf stdin) → TextFits line) :
    ∃ c, Console.open? side p true = .ok c ∧
      (∀ t moves x, Run (.start c (linesOf stdin) t) moves x →
        x.phase ≠ .failed ∧
        (x.phase ≠ .ended → ∃ m y, m.passesTime = false ∧ Step x m y) ∧
        moves.countP (fun m => !m.passesTime) ≤
          10 * (linesOf stdin).length + 5 + 5 * timeOuts moves ∧
        (x.phase = .ended →
          x.console.dispatcher.session =
            (fresh (settingsOf side)).run (operations (inner moves)) ∧
          ∃ bytes fs t,
            IsRecording (settingsOf side) p (requestsOf (linesOf stdin))
              (operations (inner moves)) bytes fs ∧
            x.console.report (some l) files =
              { code := 0
                printed := x.console.printed.toList
                files := files.insert l bytes } ∧
            t.commands = (requestsOf (linesOf stdin)).countP Request.isLine ∧
            t.resets = (requestsOf (linesOf stdin)).count .reset ∧
            ∀ clock, verifyAt path clock (files.insert l bytes) =
              { code := 0, printed := [verifiedText t], files := files.insert l bytes })) ∧
      ∀ t clock, ∃ moves x, Run (.start c (linesOf stdin) t) moves x ∧ x.phase = .ended ∧
        interact side (some path) p stdin clock files = x.console.report (some l) files := by
  have hopen := open?_eq hside hp
  have hw := recordable_headed (h := Header.ofSettings p (settingsOf side)) htext
  have hstart (t : Nat) := Faithful.start (c := recording side p) rfl (linesOf stdin) t
  refine ⟨recording side p, hopen, ?_, ?_⟩
  · intro t moves x hrun
    have h := hrun.faithful (hstart t) hw
    have hcount := hrun.countP_le
    refine ⟨?_, h.exists_step, ?_, ?_⟩
    · intro hfailed
      have hin := h.inPhase
      rw [Moment.InPhase, hfailed] at hin
      exact hin
    · have htoDo : (Moment.start (recording side p) (linesOf stdin) t).toDo =
          10 * (linesOf stdin).length + 4 + 1 := rfl
      omega
    · intro hended
      obtain ⟨hsession, bytes, fs, hbytes, hrecording⟩ :=
        Faithful.isRecording_of_ended (check_settingsOf hside) hp hw h hended
      obtain ⟨hcommands, hresets⟩ := hrecording.counts
      exact ⟨hsession, bytes, fs, _, hrecording, report_of_recording h.fault hbytes l files,
        hcommands, hresets,
        verifyAt_of_isRecording hside hrecording (FileStore.open?_insert bytes hlocate)⟩
  · intro t clock
    obtain ⟨moves, x, hrun, hended, hx⟩ := run_program hw (hstart t) ⟨rfl, rfl, rfl⟩ clock 0
    refine ⟨moves, x, hrun, hended, ?_⟩
    rw [hx]
    simp only [interact, Option.isSome_some, hopen, hlocate]
    rfl

/-- What is typed: among other things a line that is no text, a blank one, and one after the end. -/
def typed : List UInt8 :=
  "place_robot 1,1,north\n:reset\n".toUTF8.data.toList ++ [0xFF, lineFeed] ++
    " \n:dismiss 1\n move\r\n:quit\nleft".toUTF8.data.toList

/-- The requests of `TorusRobot.Console.typed`. -/
theorem requestsOf_typed : requestsOf (linesOf typed) =
    [.submit "place_robot 1,1,north", .reset, .dismiss 1, .submit " move"] := by
  decide +kernel

/-- The hypotheses of `TorusRobot.Console.recording_and_verifying_agree` are met; two lines and a
reset are recorded. -/
theorem recording_and_verifying_agree_typed :
    ∃ ops bytes fs printed,
      IsRecording (settingsOf 5) ⟨"", "", "", ""⟩
        [.submit "place_robot 1,1,north", .reset, .dismiss 1, .submit " move"] ops bytes fs ∧
      interact 5 (some "session") ⟨"", "", "", ""⟩ typed id {} =
        { code := 0
          printed := printed
          files := FileStore.insert {} ⟨.working, "session"⟩ bytes } ∧
      verifyAt "session" id (FileStore.insert {} ⟨.working, "session"⟩ bytes) =
        { code := 0
          printed := ["replay verified: 2 commands, 1 resets"]
          files := FileStore.insert {} ⟨.working, "session"⟩ bytes } := by
  have hside : 1 ≤ (5 : UInt32).toNat ∧ (5 : UInt32).toNat ≤ 4096 := by decide
  have hp : (Header.ofSettings ⟨"", "", "", ""⟩ (settingsOf 5)).Fits :=
    Header.fits_iff.2 ⟨by decide, by decide, by decide, by decide⟩
  have hlocate : FileStore.locate {} "session" = .ok ⟨.working, "session"⟩ := by decide +kernel
  have hplace : TextFits "place_robot 1,1,north" := by decide
  have hmove : TextFits " move" := by decide
  have htext : ∀ line, .submit line ∈ requestsOf (linesOf typed) → TextFits line := by
    intro line hline
    rw [requestsOf_typed] at hline
    simp only [List.mem_cons, Request.submit.injEq, reduceCtorEq, List.not_mem_nil, or_false,
      false_or] at hline
    rcases hline with rfl | rfl
    · exact hplace
    · exact hmove
  obtain ⟨c, -, hruns, hprogram⟩ := recording_and_verifying_agree hside hp hlocate htext
  obtain ⟨moves, x, hrun, hended, hinteract⟩ := hprogram 0 id
  obtain ⟨-, -, -, hend⟩ := hruns 0 moves x hrun
  obtain ⟨-, bytes, fs, t, hrecording, hreport, hcommands, hresets, hverify⟩ := hend hended
  rw [requestsOf_typed] at hrecording hcommands hresets
  have htold : verifiedText t = verifiedText { commands := 2, resets := 1 } :=
    verifiedText_congr hcommands hresets
  have hline : verifiedText { commands := 2, resets := 1 } =
      "replay verified: 2 commands, 1 resets" := by decide +kernel
  refine ⟨_, bytes, fs, _, hrecording, hinteract.trans hreport, ?_⟩
  rw [hverify id, htold, hline]

end Console

end TorusRobot
