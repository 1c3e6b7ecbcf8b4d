/-
**Recorded sessions.**

What a session does while it is recorded determines the frames of the recording: every line that
has an outcome and every reset is one frame, with the digest of the world after it.  Where there is
room for everything, the bytes of these frames are what is written, and a session that is alike
retraces them.  So a recording can always be verified, whatever the two sessions display and
whatever the time is.

Main definitions:

* `TorusRobot.Replay.Capture.perform`, `TorusRobot.Replay.Capture.run` — doing things in a session
  that is being recorded;
* `TorusRobot.Replay.recordOf?`, `TorusRobot.Replay.framesOf` — the frames of what is done;
* `TorusRobot.Replay.entriesOf` — the same without numbers.

Main results:

* `TorusRobot.Replay.framesOf_eq` — the frames are the entries, numbered one after another;
* `TorusRobot.Replay.Capture.run_of_fits` — what recording writes;
* `TorusRobot.Replay.retraces_framesOf` — an alike session retraces what was recorded;
* `TorusRobot.Replay.recording_verifies` — **what was recorded can be verified**.
-/
import TorusRobot.Proofs.Recording.Entries
import TorusRobot.Proofs.Replay.Comparing
import TorusRobot.Proofs.Session.Alike
import TorusRobot.Replay.Capture
import TorusRobot.Replay.Verification

set_option relaxedAutoImplicit false
set_option autoImplicit false

namespace TorusRobot.Replay

open Recording Session

/-! ### What is recorded -/

/-- The action as which an operation is recorded, if it is recorded. -/
def recordOf? (s : Session) : Operation → Option Action
  | .submit line now => (s.submit line now).2.map fun o => .command line o.status
  | .reset _ => some .reset
  | .dismiss _ => none
  | .expire _ => none

/-- The frame that an operation adds to the `n` there are, if it adds one. -/
def frameOf? (s : Session) (n : Nat) (op : Operation) : Option Frame :=
  (recordOf? s op).map fun action => Writer.frameBehind n action (s.perform op).1.world

/-- The frames that operations add to the `n` there are. -/
def framesOf (s : Session) (n : Nat) : List Operation → List Frame
  | [] => []
  | op :: ops =>
    let added := (frameOf? s n op).toList
    added ++ framesOf (s.perform op).1 (n + added.length) ops

/-- The line of an operation, if it has one, is not longer than the limit. -/
def OperationFits : Operation → Prop
  | .submit line _ => TextFits line
  | .reset _ | .dismiss _ | .expire _ => True

theorem fits_of_recordOf? {s : Session} {op : Operation} {action : Action}
    (hop : OperationFits op) (h : recordOf? s op = some action) :
    ∀ text ∈ action.texts, TextFits text := by
  cases op with
  | submit line now =>
      obtain ⟨o, _, rfl⟩ := Option.map_eq_some_iff.1 h
      intro text htext
      obtain rfl := List.mem_singleton.1 htext
      exact hop
  | reset now =>
      obtain rfl := Option.some.inj h
      exact List.forall_mem_nil _
  | dismiss id => cases h
  | expire now => cases h

theorem fits_of_mem_framesOf {s : Session} {n : Nat} {ops : List Operation}
    (hops : ∀ op ∈ ops, OperationFits op) : ∀ f ∈ framesOf s n ops, f.Fits := by
  induction ops generalizing s n with
  | nil => exact List.forall_mem_nil _
  | cons op ops ih =>
      intro f hf
      rcases List.mem_append.1 hf with hf | hf
      · obtain ⟨action, ha, rfl⟩ := Option.map_eq_some_iff.1 (Option.mem_toList.1 hf)
        exact fits_of_recordOf? (hops op List.mem_cons_self) ha
      · exact ih (fun op' h => hops op' (List.mem_cons_of_mem op h)) f hf

/-- The entry that an operation makes, if it makes one. -/
def entryOf? (s : Session) (op : Operation) : Option Entry :=
  (recordOf? s op).map fun action => ⟨action, (s.perform op).1.world⟩

/-- The entries that operations make. -/
def entriesOf (s : Session) : List Operation → List Entry
  | [] => []
  | op :: ops => (entryOf? s op).toList ++ entriesOf (s.perform op).1 ops

/-- **The frames are the entries, numbered one after another.** -/
theorem framesOf_eq (s : Session) (n : Nat) (ops : List Operation) :
    framesOf s n ops = Writer.framesBehind n (entriesOf s ops) := by
  induction ops generalizing s n with
  | nil => rfl
  | cons op ops ih =>
      rw [framesOf, entriesOf, ih, frameOf?, entryOf?]
      cases recordOf? s op with
      | none => rfl
      | some action => rfl

/-- A frame of what is done bears its position, counted from one. -/
theorem seq_of_framesOf {s : Session} {ops : List Operation} {before after : List Frame}
    {f : Frame} (h : framesOf s 0 ops = before ++ f :: after) :
    f.seq = UInt64.ofNat (before.length + 1) := by
  rw [framesOf_eq] at h
  have hseq := Writer.map_seq_framesBehind 0 (entriesOf s ops)
  have hlength := Writer.length_framesBehind 0 (entriesOf s ops)
  rw [h] at hseq hlength
  have hlt : before.length < (entriesOf s ops).length := by
    rw [← hlength]
    simp
  have hf := congrArg (·[before.length]?) hseq
  simpa [List.getElem?_eq_getElem, hlt, Nat.add_comm] using hf

/-! ### What is written -/

namespace Capture

/-- Where there is room, a recording starts with its header. -/
theorem start_of_fits {session : Session} {p : Provenance} {sink : Sink} (hroom : sink.room = none)
    (hp : (Header.ofSettings p session.settings).Fits) :
    start session p sink = (.ok (), ⟨session, { sink := { sink with
      written := sink.written ++ (Header.ofSettings p session.settings).bytes } }⟩) := by
  rw [start, Writer.start_of_fits hroom hp]

/-- An operation is carried out; lines and resets are recorded. -/
def perform : Operation → Transfer Capture Unit
  | .submit line now => submit line now
  | .reset now => reset now
  | .dismiss id => fun c => (.ok (), { c with session := (c.session.dismiss id).1 })
  | .expire now => fun c => (.ok (), { c with session := (c.session.expire now).1 })

/-- Operations are carried out one after another, until one cannot be recorded. -/
def run : List Operation → Transfer Capture Unit
  | [] => pure ()
  | op :: ops => do
    perform op
    run ops

variable {c : Capture}

theorem submit_of_none {line : String} {now : Nat} (h : (c.session.submit line now).2 = none) :
    submit line now c = (.ok (), { c with session := (c.session.submit line now).1 }) := by
  unfold submit
  split
  · rename_i e
    rw [e]
  · rename_i e
    rw [e] at h
    cases h

theorem submit_of_some {line : String} {now : Nat} {o : Outcome}
    (h : (c.session.submit line now).2 = some o) :
    submit line now c =
      ((Writer.record (.command line o.status) (c.session.submit line now).1.world c.writer).1,
        ⟨(c.session.submit line now).1,
          (Writer.record (.command line o.status) (c.session.submit line now).1.world
            c.writer).2⟩) := by
  unfold submit
  split
  · rename_i e
    rw [e] at h
    cases h
  · rename_i e
    rw [e] at h ⊢
    obtain rfl := Option.some.inj h
    rfl

theorem perform_of_none {op : Operation} (h : recordOf? c.session op = none) :
    perform op c = (.ok (), { c with session := (c.session.perform op).1 }) := by
  cases op with
  | submit line now =>
      have ho : (c.session.submit line now).2 = none := Option.map_eq_none_iff.1 h
      rw [perform_submit, perform, submit_of_none ho]
  | reset now => cases h
  | dismiss id =>
      rw [perform_dismiss]
      rfl
  | expire now =>
      rw [perform_expire]
      rfl

theorem perform_of_some {op : Operation} {action : Action}
    (h : recordOf? c.session op = some action) :
    perform op c =
      ((Writer.record action (c.session.perform op).1.world c.writer).1,
        ⟨(c.session.perform op).1,
          (Writer.record action (c.session.perform op).1.world c.writer).2⟩) := by
  cases op with
  | submit line now =>
      obtain ⟨o, ho, rfl⟩ := Option.map_eq_some_iff.1 h
      rw [perform_submit, perform, submit_of_some ho]
  | reset now =>
      rw [perform_reset]
      obtain rfl := Option.some.inj h
      simp only [perform, reset]
  | dismiss id => cases h
  | expire now => cases h

/-- Where there is room, an operation adds its frame. -/
theorem perform_of_fits {op : Operation} (hroom : c.writer.sink.room = none)
    (hop : OperationFits op) :
    perform op c = (.ok (), ⟨(c.session.perform op).1,
      c.writer.extend (frameOf? c.session c.writer.framesWritten op).toList⟩) := by
  unfold frameOf?
  cases h : recordOf? c.session op with
  | none =>
      rw [perform_of_none h, Option.map_none, Option.toList_none, Writer.extend_nil]
  | some action =>
      have hw := @Writer.record_of_fits c.writer action (c.session.perform op).1.world hroom
        (fits_of_recordOf? hop h)
      rw [perform_of_some h, hw, Option.map_some, Option.toList_some]

/-- **What recording writes**: the frames of what is done, behind what was written before. -/
theorem run_of_fits {ops : List Operation} (hroom : c.writer.sink.room = none)
    (hops : ∀ op ∈ ops, OperationFits op) :
    run ops c = (.ok (), ⟨c.session.run ops,
      c.writer.extend (framesOf c.session c.writer.framesWritten ops)⟩) := by
  induction ops generalizing c with
  | nil => simp [run, framesOf]
  | cons op ops ih =>
      let added := (frameOf? c.session c.writer.framesWritten op).toList
      let next : Capture := ⟨(c.session.perform op).1, c.writer.extend added⟩
      have h₁ : perform op c = (.ok (), next) :=
        perform_of_fits hroom (hops op List.mem_cons_self)
      have h₂ := @ih next hroom fun op' h => hops op' (List.mem_cons_of_mem op h)
      rw [run, Transfer.bind_of_ok h₁]
      refine h₂.trans ?_
      rw [framesOf, Writer.extend_append]
      rfl

end Capture

/-! ### Doing it again -/

/-- An action is done again in a session that counts how many were; the clock says when. -/
def redoAt (clock : Nat → Nat) (state : Session × Nat) (action : Action) :
    Except Fault Redone × (Session × Nat) :=
  let (redone, s) := state.1.redo action (clock state.2)
  (.ok redone, (s, state.2 + 1))

theorem redoAt_eq (clock : Nat → Nat) (s : Session) (k : Nat) (action : Action) :
    redoAt clock (s, k) action =
      (.ok (s.redo action (clock k)).1, ((s.redo action (clock k)).2, k + 1)) := by
  simp only [redoAt]

/-- A recording that is not refused is replayed. -/
theorem verify_eq_compare {s : Session} {r : Reader} (clock : Nat → Nat)
    (h : s.accepts r.header = true) :
    s.verify r clock =
      ⟨(compare (redoAt clock) r (s, 0)).result, (compare (redoAt clock) r (s, 0)).reader,
        (compare (redoAt clock) r (s, 0)).state.1⟩ := by
  rw [verify, if_pos h]
  rfl

theorem verify_of_accepts {s : Session} {r : Reader} (clock : Nat → Nat)
    (h : s.accepts r.header = true) :
    ((s.verify r clock).result, (s.verify r clock).state) =
      ((compareFrames (redoAt clock) r.readAll.2.1 r.readAll.1 (s, 0)).1,
        (compareFrames (redoAt clock) r.readAll.2.1 r.readAll.1 (s, 0)).2.1) := by
  rw [← compare_eq, verify_eq_compare clock h]

theorem digest_redo (s : Session) (action : Action) (now : Nat) :
    (s.redo action now).1.digest = (s.redo action now).2.world.digest := by
  cases action with
  | command line status => simp only [redo]
  | reset => simp only [redo]

theorem status_redo_command (s : Session) (line : String) (status : Status) (now : Nat) :
    (s.redo (.command line status) now).1.status = (s.submit line now).2.map Outcome.status := by
  simp only [redo]

theorem redo_command_snd (s : Session) (line : String) (status : Status) (now : Nat) :
    (s.redo (.command line status) now).2 = (s.submit line now).1 := by
  simp only [redo]

theorem redo_reset_snd (s : Session) (now : Nat) :
    (s.redo .reset now).2 = (s.reset now).1 := by
  simp only [redo]

/-- An alike session stays alike when it does again what was recorded of an operation. -/
theorem alike_redo {a b : Session} {op : Operation} {action : Action} (h : a.Alike b)
    (ha : recordOf? a op = some action) (now : Nat) :
    (a.perform op).1.Alike (b.redo action now).2 := by
  cases op with
  | submit line t =>
      obtain ⟨o, _, rfl⟩ := Option.map_eq_some_iff.1 ha
      rw [redo_command_snd, perform_submit]
      exact h.submit line t now
  | reset t =>
      obtain rfl := Option.some.inj ha
      rw [redo_reset_snd, perform_reset]
      exact h.reset t now
  | dismiss id => cases ha
  | expire t => cases ha

/-- And what it gives is what was recorded. -/
theorem divergence?_redo {a b : Session} {op : Operation} {action : Action} (h : a.Alike b)
    (ha : recordOf? a op = some action) (n now : Nat) :
    divergence? (Writer.frameBehind n action (a.perform op).1.world) (b.redo action now).1 =
      none := by
  rw [divergence?_eq_none_iff, digest_redo, Writer.digest_frameBehind, (alike_redo h ha now).world]
  refine ⟨?_, rfl⟩
  intro line status hline
  obtain rfl : action = .command line status := hline
  cases op with
  | submit line' t =>
      obtain ⟨o, ho, he⟩ := Option.map_eq_some_iff.1 ha
      obtain ⟨rfl, rfl⟩ := Action.command.inj he
      rw [status_redo_command, ← h.submit_snd line' t now, ho, Option.map_some]
  | reset t => cases ha
  | dismiss id => cases ha
  | expire t => cases ha

/-- An operation that is not recorded does not concern the other session. -/
theorem alike_of_recordOf?_none {a b : Session} {op : Operation} (h : a.Alike b)
    (ha : recordOf? a op = none) : (a.perform op).1.Alike b := by
  cases op with
  | submit line now =>
      have hs : (a.submit line now).2 = none := Option.map_eq_none_iff.1 ha
      rw [perform_submit, Session.submit_of_none hs]
      exact h
  | reset now => cases ha
  | dismiss id =>
      rw [perform_dismiss]
      exact h.dismiss_left id
  | expire now =>
      rw [perform_expire]
      exact h.expire_left now

/-- **An alike session retraces what was recorded**, at any times. -/
theorem retraces_framesOf {a b : Session} (h : a.Alike b) (clock : Nat → Nat) (n k : Nat)
    (ops : List Operation) :
    ∃ b' k', Retraces (redoAt clock) (b, k) (framesOf a n ops) (b', k') ∧ (a.run ops).Alike b' := by
  induction ops generalizing a b n k with
  | nil => exact ⟨b, k, .nil (b, k), h⟩
  | cons op ops ih =>
      cases ha : recordOf? a op with
      | none =>
          -- no frame: only the recorded session goes on
          obtain ⟨b', k', hr, hb⟩ := ih (alike_of_recordOf?_none h ha) n k
          refine ⟨b', k', ?_, hb⟩
          simpa [framesOf, frameOf?, ha] using hr
      | some action =>
          -- one frame: both sessions go on, and the next time is asked of the clock
          obtain ⟨b', k', hr, hb⟩ := ih (alike_redo h ha (clock k)) (n + 1) (k + 1)
          refine ⟨b', k', ?_, hb⟩
          have hframes : framesOf a n (op :: ops) =
              Writer.frameBehind n action (a.perform op).1.world ::
                framesOf (a.perform op).1 (n + 1) ops := by
            simp [framesOf, frameOf?, ha]
          rw [hframes]
          exact .cons (redoAt_eq clock b k action) (divergence?_redo h ha n (clock k)) hr

/-! ### Recording, then verifying -/

/-- A session accepts what was recorded under settings of the same side and the same treatment of
lines. -/
theorem accepts_ofSettings {b : Session} {A : Settings} {p : Provenance}
    (hside : A.side = b.settings.side) (hcase : A.casePolicy = b.settings.casePolicy) :
    b.accepts (Header.ofSettings p A) = true := by
  simp only [accepts, Header.ofSettings, Settings.digest_congr hside hcase, hside, decide_true,
    Bool.and_self]

/-- Where exactly the recorded frames are read, doing it again in a session that is alike finds no
divergence. -/
theorem verify_of_readAll {a b : Session} {r r' : Reader} {ops : List Operation} (h : a.Alike b)
    (haccepts : b.accepts r.header = true) (hread : r.readAll = (framesOf a 0 ops, .ok (), r'))
    (clock : Nat → Nat) :
    (b.verify r clock).result = .ok none ∧ (a.run ops).Alike (b.verify r clock).state := by
  obtain ⟨b', k', hretraces, halike⟩ := retraces_framesOf h clock 0 0 ops
  have hverify := verify_of_accepts clock haccepts
  rw [hread, compareFrames_of_retraces hretraces] at hverify
  obtain ⟨hresult, hstate⟩ := Prod.mk.inj hverify
  refine ⟨hresult, ?_⟩
  rw [hstate]
  exact halike

/-- Reading the bytes of the recorded frames, and doing it again in a session that is alike, finds
no divergence. -/
theorem verify_of_pending {a b : Session} {r : Reader} {ops : List Operation} (h : a.Alike b)
    (haccepts : b.accepts r.header = true) (hs : r.source.Lasts)
    (hops : ∀ op ∈ ops, OperationFits op)
    (hp : r.source.pending = (framesOf a 0 ops).flatMap Frame.bytes) (clock : Nat → Nat) :
    (b.verify r clock).result = .ok none ∧ (a.run ops).Alike (b.verify r clock).state := by
  obtain ⟨r', hread⟩ := Reader.readAll_of_pending_end hs (fits_of_mem_framesOf hops) hp
  exact verify_of_readAll h haccepts hread clock

/-- A session is recorded where there is room for everything: the bytes of the recording. -/
theorem exists_recorded {a : Session} {p : Provenance} {sink : Sink} {ops : List Operation}
    (hp : (Header.ofSettings p a.settings).Fits) (hops : ∀ op ∈ ops, OperationFits op)
    (hroom : sink.room = none) (hempty : sink.written = #[]) :
    ∃ c₀ c, Capture.start a p sink = (.ok (), c₀) ∧ Capture.run ops c₀ = (.ok (), c) ∧
      c.session = a.run ops ∧
      c.writer.sink.bytes =
        (Header.ofSettings p a.settings).bytes ++ (framesOf a 0 ops).flatMap Frame.bytes := by
  have hstart := Capture.start_of_fits hroom hp
  -- the session whose recording holds the header only
  let c₀ : Capture := ⟨a, { sink := { sink with
    written := sink.written ++ (Header.ofSettings p a.settings).bytes } }⟩
  have hrun := @Capture.run_of_fits c₀ ops hroom hops
  refine ⟨c₀, _, hstart, hrun, rfl, ?_⟩
  have hnone : sink.bytes = [] := by rw [Sink.bytes, hempty]
  have hheader := Sink.bytes_append sink (Header.ofSettings p a.settings).bytes
  rw [hnone, List.nil_append] at hheader
  rw [Writer.bytes_extend, hheader]

/-- A session is recorded where there is room for everything; then its recording can be opened, and
an alike session that accepts it finds no divergence. -/
theorem verify_of_recorded {a b : Session} {p : Provenance} {sink : Sink} {ops : List Operation}
    (h : a.Alike b) (hside : a.settings.side = b.settings.side)
    (hp : (Header.ofSettings p a.settings).Fits) (hops : ∀ op ∈ ops, OperationFits op)
    (hroom : sink.room = none) (hempty : sink.written = #[]) :
    ∃ c₀ c, Capture.start a p sink = (.ok (), c₀) ∧ Capture.run ops c₀ = (.ok (), c) ∧
      c.session = a.run ops ∧
      ∀ s : Source, s.Lasts → s.pending = c.writer.sink.bytes →
        ∃ r, Reader.ofSource s = .ok r ∧ ∀ clock : Nat → Nat,
          (b.verify r clock).result = .ok none ∧
            (a.run ops).Alike (b.verify r clock).state := by
  obtain ⟨c₀, c, hstart, hrun, hsession, hbytes⟩ := exists_recorded hp hops hroom hempty
  refine ⟨c₀, c, hstart, hrun, hsession, ?_⟩
  intro s hs hpending
  rw [hbytes] at hpending
  obtain ⟨r, hopen, hr, hs', hrest⟩ := Reader.ofSource_of_pending hs hp hpending
  have haccepts : b.accepts r.header = true := by
    rw [hr]
    exact accepts_ofSettings hside h.casePolicy
  refine ⟨r, hopen, ?_⟩
  intro clock
  exact verify_of_pending h haccepts hs' hops hrest clock

/-- **What was recorded can be verified.**  Settings `A` and `B` are valid and agree in the side and
in the treatment of lines.  A session under `A` is recorded where there is room for everything; then
its recording can be opened, and a session under `B` finds no divergence in it, however the bytes
are delivered and whatever the time is.  It ends with the world and the counts of the recorded
one. -/
theorem recording_verifies {A B : Settings} {p : Provenance} {sink : Sink} {ops : List Operation}
    (hA : A.check = .ok ()) (hB : B.check = .ok ()) (hside : A.side = B.side)
    (hcase : A.casePolicy = B.casePolicy) (hp : (Header.ofSettings p A).Fits)
    (hops : ∀ op ∈ ops, OperationFits op) (hroom : sink.room = none)
    (hempty : sink.written = #[]) :
    ∃ a b c₀ c, start A = .ok a ∧ start B = .ok b ∧
      Capture.start a p sink = (.ok (), c₀) ∧ Capture.run ops c₀ = (.ok (), c) ∧
      c.session = a.run ops ∧
      ∀ s : Source, s.Lasts → s.pending = c.writer.sink.bytes →
        ∃ r, Reader.ofSource s = .ok r ∧ ∀ clock : Nat → Nat,
          (b.verify r clock).result = .ok none ∧
            (a.run ops).Alike (b.verify r clock).state := by
  have ha : start A = .ok (fresh A) := start_eq_ok_iff.2 ⟨hA, rfl⟩
  have hb : start B = .ok (fresh B) := start_eq_ok_iff.2 ⟨hB, rfl⟩
  have halike := alike_start ha hb hside hcase
  obtain ⟨c₀, c, h⟩ := verify_of_recorded halike hside hp hops hroom hempty
  exact ⟨_, _, c₀, c, ha, hb, h⟩

/-- Settings under which hardly anything is displayed. -/
def sparse : Settings :=
  { logCapacity := 1, trayCapacity := 1, noticeLifetime := 1, resetLifetime := 1 }

/-- A reset and a blank line between two commands, at times that go back and forth. -/
def interrupted : List Operation :=
  [.submit "place_robot 1,1,north" 9, .reset 4, .submit " " 7, .submit "MOVE" 0]

/-- The hypotheses of `TorusRobot.Replay.recording_verifies` are met by settings that agree in
nothing that is displayed. -/
theorem recording_verifies_sparse :
    ∃ a b c₀ c, start {} = .ok a ∧ start sparse = .ok b ∧
      Capture.start a ⟨"", "", "", ""⟩ {} = (.ok (), c₀) ∧
      Capture.run interrupted c₀ = (.ok (), c) ∧
      ∃ r, Reader.ofSource { pending := c.writer.sink.bytes } = .ok r ∧
        (b.verify r id).result = .ok none ∧
        (a.run interrupted).Alike (b.verify r id).state := by
  have hp : (Header.ofSettings ⟨"", "", "", ""⟩ {}).Fits :=
    Header.fits_iff.2 ⟨by decide, by decide, by decide, by decide⟩
  have hplace : TextFits "place_robot 1,1,north" := by decide
  have hblank : TextFits " " := by decide
  have hmove : TextFits "MOVE" := by decide
  have hops : ∀ op ∈ interrupted, OperationFits op := by
    simp only [interrupted, List.forall_mem_cons]
    exact ⟨hplace, trivial, hblank, hmove, List.forall_mem_nil _⟩
  have hA : Settings.check {} = .ok () := rfl
  have hB : sparse.check = .ok () := rfl
  have hroom : Sink.room {} = none := rfl
  have hempty : Sink.written {} = #[] := rfl
  obtain ⟨a, b, c₀, c, ha, hb, hstart, hrun, _, h⟩ :=
    recording_verifies hA hB rfl rfl hp hops hroom hempty
  obtain ⟨r, hopen, hr⟩ := h { pending := c.writer.sink.bytes } rfl rfl
  exact ⟨a, b, c₀, c, ha, hb, hstart, hrun, r, hopen, hr id⟩

end TorusRobot.Replay
