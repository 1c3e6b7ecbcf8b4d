/-
**Recordings that were tampered with.**

Statuses and digests in the recording of a session are replaced, any number of them, while the lines
and the resets are left as they are.  Everything before the first frame that was touched is retraced
as if nothing had happened; that frame is done again and found to differ, and nothing behind it is
looked at.  What is told of it is its status if that was replaced, and otherwise its digest.

Main definitions:

* `TorusRobot.Replay.Altered` — a frame whose status and digest may have been replaced;
* `TorusRobot.Replay.Told` — how a replaced status or digest is told;
* `TorusRobot.Replay.again`, `TorusRobot.Replay.redoing` — what doing an action or frames again does
  to a session.

Main results:

* `TorusRobot.Replay.exists_first_altered` — the first frame that was touched;
* `TorusRobot.Replay.Told.divergence?_eq` — how that frame differs from doing it again;
* `TorusRobot.Replay.Retraces.state_eq` — what was retraced is done to the session, nothing else;
* `TorusRobot.Replay.tampering_is_pinned` — **verifying tells the first frame that was touched**.
-/
import Mathlib.Data.List.Forall2
import TorusRobot.Proofs.Replay.Recorded

set_option relaxedAutoImplicit false
set_option autoImplicit false

namespace TorusRobot.Replay

open Recording Session

/-! ### Frames that were touched -/

/-- The second frame is the first one, up to a status and a digest that may have been replaced.  The
frame of a reset has no status to replace. -/
inductive Altered : Frame → Frame → Prop where
  | command (seq : UInt64) (line : String) (status status' : Status) (digest digest' : UInt64) :
      Altered ⟨seq, .command line status, digest⟩ ⟨seq, .command line status', digest'⟩
  | reset (seq digest digest' : UInt64) : Altered ⟨seq, .reset, digest⟩ ⟨seq, .reset, digest'⟩

/-- How a frame that was touched differs from the genuine one: a status that was replaced is told,
whatever the digest is, and a digest only where the status was left. -/
inductive Told : Frame → Frame → Difference → Prop where
  | status {seq : UInt64} {line : String} {status status' : Status} {digest digest' : UInt64}
      (h : status' ≠ status) :
      Told ⟨seq, .command line status, digest⟩ ⟨seq, .command line status', digest'⟩
        (.status status' (some status))
  | digest {seq : UInt64} {action : Action} {digest digest' : UInt64} (h : digest' ≠ digest) :
      Told ⟨seq, action, digest⟩ ⟨seq, action, digest'⟩ (.digest digest' digest)

/-- What was touched can be told. -/
theorem Altered.exists_told {f f' : Frame} (h : Altered f f') (hne : f' ≠ f) :
    ∃ d, Told f f' d := by
  cases h with
  | command seq line status status' digest digest' =>
      by_cases hs : status' = status
      · subst hs
        have hd : digest' ≠ digest := fun hd => hne (by rw [hd])
        exact ⟨_, .digest hd⟩
      · exact ⟨_, .status hs⟩
  | reset seq digest digest' =>
      have hd : digest' ≠ digest := fun hd => hne (by rw [hd])
      exact ⟨_, .digest hd⟩

/-- What is told was touched. -/
theorem Told.ne {f f' : Frame} {d : Difference} (h : Told f f' d) : f' ≠ f := by
  cases h with
  | status hs => exact fun he => hs (Action.command.inj (Frame.mk.inj he).2.1).2
  | digest hd => exact fun he => hd (Frame.mk.inj he).2.2

theorem Altered.fits {f f' : Frame} (h : Altered f f') (hf : f.Fits) : f'.Fits := by
  cases h with
  | command => exact hf
  | reset => exact hf

theorem fits_of_altered {fs fs' : List Frame} (h : List.Forall₂ Altered fs fs')
    (hfs : ∀ f ∈ fs, f.Fits) : ∀ f ∈ fs', f.Fits := by
  induction h with
  | nil => exact List.forall_mem_nil _
  | cons hf _ ih =>
      obtain ⟨hfits, hrest⟩ := List.forall_mem_cons.1 hfs
      exact List.forall_mem_cons.2 ⟨hf.fits hfits, ih hrest⟩

/-- **The first frame that was touched**, where any was. -/
theorem exists_first_altered {fs fs' : List Frame} (h : List.Forall₂ Altered fs fs')
    (hne : fs' ≠ fs) :
    ∃ before f f' after after', fs = before ++ f :: after ∧ fs' = before ++ f' :: after' ∧
      Altered f f' ∧ f' ≠ f := by
  induction h with
  | nil => exact absurd rfl hne
  | @cons f f' fs fs' hf _ ih =>
      by_cases he : f' = f
      · -- this one was left alone, so one of the others was not
        subst he
        have hrest : fs' ≠ fs := fun hrest => hne (by rw [hrest])
        obtain ⟨before, g, g', after, after', rfl, rfl, hg⟩ := ih hrest
        exact ⟨f' :: before, g, g', after, after', rfl, rfl, hg⟩
      · exact ⟨[], f, f', fs, fs', rfl, rfl, hf, he⟩

/-! ### Doing them again -/

/-- The operation as which an action is done again at time `now`. -/
def again (now : Nat) : Action → Operation
  | .command line _ => .submit line now
  | .reset => .reset now

/-- The operations as which frames are done again behind `k` others; the clock says when. -/
def redoing (clock : Nat → Nat) (k : Nat) : List Frame → List Operation
  | [] => []
  | f :: fs => again (clock k) f.action :: redoing clock (k + 1) fs

theorem redoing_append (clock : Nat → Nat) (k : Nat) (fs gs : List Frame) :
    redoing clock k (fs ++ gs) = redoing clock k fs ++ redoing clock (k + fs.length) gs := by
  induction fs generalizing k with
  | nil => rfl
  | cons f fs ih =>
      rw [List.cons_append, redoing, ih, redoing, List.cons_append, List.length_cons,
        Nat.add_right_comm, Nat.add_assoc]

theorem redo_snd (s : Session) (action : Action) (now : Nat) :
    (s.redo action now).2 = (s.perform (again now action)).1 := by
  cases action with
  | command line status => rw [redo_command_snd, again, perform_submit]
  | reset => rw [redo_reset_snd, again, perform_reset]

/-- Doing again does not look at what was replaced. -/
theorem Told.redo_eq {f f' : Frame} {d : Difference} (h : Told f f' d) (s : Session) (now : Nat) :
    s.redo f'.action now = s.redo f.action now := by
  cases h with
  | status => rfl
  | digest => rfl

/-- **How a frame that was touched differs from doing it again**, if the genuine one does not. -/
theorem Told.divergence?_eq {f f' : Frame} {d : Difference} (h : Told f f' d) {redone : Redone}
    (hf : divergence? f redone = none) : divergence? f' redone = some ⟨f.seq, d⟩ := by
  obtain ⟨hstatus, hdigest⟩ := divergence?_eq_none_iff.1 hf
  cases h with
  | @status seq line status status' digest digest' hne =>
      have hs : redone.status = some status := hstatus line status rfl
      simp [divergence?, difference?, statusDifference?, hs, hne.symm]
  | @digest seq action digest digest' hne =>
      have hs : statusDifference? action redone.status = none := by
        cases action with
        | command line status => rw [hstatus line status rfl, statusDifference?, if_pos rfl]
        | reset => rfl
      have hd : redone.digest = digest := hdigest
      simp [divergence?, difference?, hs, hd, hne.symm]

/-- **What was retraced is done to the session**, and nothing else. -/
theorem Retraces.state_eq {clock : Nat → Nat} {b b' : Session} {k k' : Nat} {fs : List Frame}
    (h : Retraces (redoAt clock) (b, k) fs (b', k')) :
    b' = b.run (redoing clock k fs) ∧ k' = k + fs.length := by
  induction fs generalizing b k with
  | nil =>
      cases h
      exact ⟨rfl, rfl⟩
  | cons f fs ih =>
      cases h with
      | @cons _ s₁ _ _ _ redone hredo _ hfs =>
          rw [redoAt_eq, Prod.mk.injEq] at hredo
          obtain ⟨-, rfl⟩ := hredo
          obtain ⟨hb, hk⟩ := ih hfs
          refine ⟨?_, ?_⟩
          · rw [hb, redo_snd, redoing, run_cons]
          · rw [hk, List.length_cons, Nat.add_right_comm, Nat.add_assoc]

/-! ### Verifying -/

/-- A recording with one frame that was touched behind others that were not, as an alike session
comes upon it: what is told, and what was done until then. -/
theorem verify_of_told {a b : Session} {r : Reader} {ops : List Operation}
    {before after after' : List Frame} {f f' : Frame} {d : Difference} (h : a.Alike b)
    (haccepts : b.accepts r.header = true) (hs : r.source.Lasts)
    (hframes : framesOf a 0 ops = before ++ f :: after) (htold : Told f f' d)
    (hfits : ∀ g ∈ before ++ f' :: after', g.Fits)
    (hp : r.source.pending = (before ++ f' :: after').flatMap Frame.bytes) (clock : Nat → Nat) :
    (b.verify r clock).result = .ok (some ⟨UInt64.ofNat (before.length + 1), d⟩) ∧
      (b.verify r clock).state = b.run (redoing clock 0 (before ++ [f'])) := by
  obtain ⟨r', hread⟩ := Reader.readAll_of_pending_end hs hfits hp
  -- the genuine frames are retraced, those before the touched one first
  obtain ⟨b', k', hretraces, -⟩ := retraces_framesOf h clock 0 0 ops
  rw [hframes] at hretraces
  obtain ⟨⟨b₁, k₁⟩, hbefore, hrest⟩ := hretraces.of_append
  obtain ⟨rfl, rfl⟩ := hbefore.state_eq
  have hverify := verify_of_accepts clock haccepts
  rw [hread, compareFrames_append hbefore] at hverify
  -- the touched frame gives what the genuine one gives
  cases hrest with
  | cons hredo hd _ =>
      rw [redoAt_eq, Prod.mk.injEq, Except.ok.injEq] at hredo
      obtain ⟨rfl, rfl⟩ := hredo
      have hd' := htold.divergence?_eq hd
      rw [← htold.redo_eq] at hd'
      rw [compareFrames, redoAt_eq] at hverify
      simp only [hd'] at hverify
      obtain ⟨hresult, hstate⟩ := Prod.mk.inj hverify
      refine ⟨?_, ?_⟩
      · rw [hresult, seq_of_framesOf hframes]
      · rw [hstate, redo_snd, redoing_append, run_append]
        rfl

/-- **Verifying tells the first frame that was touched.**  Settings `A` and `B` are valid and agree
in the side and in the treatment of lines.  A session under `A` is recorded where there is room for
everything, and its recording consists of the frames of what was done.  In some of these frames, at
least one, the status or the digest or both are replaced, which gives the frames `fs'`; they can be
written and opened, and a session under `B` finds the first frame that was touched, by its position
from one.  It tells the replaced status and the genuine one, or, if only the digest of that frame
was replaced, the replaced digest and the genuine one.  The frames up to this one have been done in
the session, and no others. -/
theorem tampering_is_pinned {A B : Settings} {p : Provenance} {sink : Sink} {ops : List Operation}
    (hA : A.check = .ok ()) (hB : B.check = .ok ()) (hside : A.side = B.side)
    (hcase : A.casePolicy = B.casePolicy) (hp : (Header.ofSettings p A).Fits)
    (hops : ∀ op ∈ ops, OperationFits op) (hroom : sink.room = none)
    (hempty : sink.written = #[]) :
    ∃ a b c₀ c, start A = .ok a ∧ start B = .ok b ∧
      Capture.start a p sink = (.ok (), c₀) ∧ Capture.run ops c₀ = (.ok (), c) ∧
      Sink.output (Sink.writeRecording (Header.ofSettings p A) (framesOf a 0 ops)) =
        .ok c.writer.sink.bytes ∧
      ∀ fs', List.Forall₂ Altered (framesOf a 0 ops) fs' → fs' ≠ framesOf a 0 ops →
        ∃ bs before f f' after after' d,
          Sink.output (Sink.writeRecording (Header.ofSettings p A) fs') = .ok bs ∧
          framesOf a 0 ops = before ++ f :: after ∧ fs' = before ++ f' :: after' ∧ Told f f' d ∧
          ∀ s : Source, s.Lasts → s.pending = bs →
            ∃ r, Reader.ofSource s = .ok r ∧ ∀ clock : Nat → Nat,
              (b.verify r clock).result = .ok (some ⟨UInt64.ofNat (before.length + 1), d⟩) ∧
              (b.verify r clock).state = b.run (redoing clock 0 (before ++ [f'])) := by
  have ha : start A = .ok (fresh A) := start_eq_ok_iff.2 ⟨hA, rfl⟩
  have hb : start B = .ok (fresh B) := start_eq_ok_iff.2 ⟨hB, rfl⟩
  have halike := alike_start ha hb hside hcase
  have hfits : ∀ f ∈ framesOf (fresh A) 0 ops, f.Fits := fits_of_mem_framesOf hops
  obtain ⟨c₀, c, hstart, hrun, -, hbytes⟩ := exists_recorded hp hops hroom hempty
  refine ⟨_, _, c₀, c, ha, hb, hstart, hrun, ?_, ?_⟩
  · rw [Sink.writeRecording_of_fits hp hfits, Sink.output_put, hbytes]
    rfl
  · intro fs' hfs' hne
    have hfits' := fits_of_altered hfs' hfits
    obtain ⟨before, f, f', after, after', hfs, rfl, hf, hff'⟩ := exists_first_altered hfs' hne
    obtain ⟨d, htold⟩ := hf.exists_told hff'
    let bs := (Header.ofSettings p A).bytes ++ (before ++ f' :: after').flatMap Frame.bytes
    refine ⟨bs, before, f, f', after, after', d, ?_, hfs, rfl, htold, ?_⟩
    · rw [Sink.writeRecording_of_fits hp hfits', Sink.output_put]
      rfl
    · intro s hs hpending
      obtain ⟨r, hopen, hr, hs', hrest⟩ := Reader.ofSource_of_pending hs hp hpending
      have haccepts : (fresh B).accepts r.header = true := by
        rw [hr]
        exact accepts_ofSettings hside hcase
      refine ⟨r, hopen, ?_⟩
      intro clock
      exact verify_of_told halike haccepts hs' hfs htold hfits' hrest clock

/-- The frames that `TorusRobot.Replay.interrupted` gives. -/
def genuine : List Frame :=
  [⟨1, .command "place_robot 1,1,north" .ok, 10526550066005960075⟩,
    ⟨2, .reset, 17192881605889639456⟩, ⟨3, .command "MOVE" .notPlaced, 17192881605889639456⟩]

/-- The same with a move that is said to have worked, and a digest that was made up. -/
def forged : List Frame :=
  [⟨1, .command "place_robot 1,1,north" .ok, 10526550066005960075⟩,
    ⟨2, .reset, 17192881605889639456⟩, ⟨3, .command "MOVE" .ok, 0⟩]

/-- Of these frames only the last one was touched. -/
theorem last_of_told_forged {before after after' : List Frame} {f f' : Frame} {d : Difference}
    (hgenuine : genuine = before ++ f :: after) (hforged : forged = before ++ f' :: after')
    (h : Told f f' d) :
    before ++ [f'] = forged ∧ before.length = 2 ∧ d = .status .ok (some .notPlaced) := by
  have hne := h.ne
  match before with
  | [] =>
      obtain ⟨rfl, -⟩ := List.cons.inj hgenuine
      obtain ⟨rfl, -⟩ := List.cons.inj hforged
      exact absurd rfl hne
  | [_] =>
      obtain ⟨rfl, -⟩ := List.cons.inj (List.cons.inj hgenuine).2
      obtain ⟨rfl, -⟩ := List.cons.inj (List.cons.inj hforged).2
      exact absurd rfl hne
  | [_, _] =>
      obtain ⟨rfl, rfl, rfl, rfl⟩ := by simpa [genuine] using hgenuine
      obtain ⟨rfl, rfl⟩ := by simpa [forged] using hforged
      cases h with
      | status => exact ⟨rfl, rfl, rfl⟩
  | _ :: _ :: _ :: before =>
      exact absurd hgenuine (by simp [genuine])

/-- The hypotheses of `TorusRobot.Replay.tampering_is_pinned` are met by a recording of three
frames.  The last of them was touched: its status is told, although its digest is another one
too. -/
theorem tampering_is_pinned_forged :
    ∃ b bs r, start sparse = .ok b ∧
      Sink.output (Sink.writeRecording (Header.ofSettings ⟨"", "", "", ""⟩ {}) forged) = .ok bs ∧
      Reader.ofSource { pending := bs } = .ok r ∧
      (b.verify r id).result = .ok (some ⟨3, .status .ok (some .notPlaced)⟩) ∧
      (b.verify r id).state =
        b.run [.submit "place_robot 1,1,north" 0, .reset 1, .submit "MOVE" 2] := by
  have hp : (Header.ofSettings ⟨"", "", "", ""⟩ {}).Fits :=
    Header.fits_iff.2 ⟨by decide, by decide, by decide, by decide⟩
  have hplace : TextFits "place_robot 1,1,north" := by decide
  have hblank : TextFits " " := by decide
  have hmove : TextFits "MOVE" := by decide
  have hops : ∀ op ∈ interrupted, OperationFits op := by
    simp only [interrupted, List.forall_mem_cons]
    exact ⟨hplace, trivial, hblank, hmove, List.forall_mem_nil _⟩
  have hA : Settings.check {} = .ok () := rfl
  have hB : sparse.check = .ok () := rfl
  have hroom : Sink.room {} = none := rfl
  have hempty : Sink.written {} = #[] := rfl
  obtain ⟨a, b, c₀, c, ha, hb, -, -, -, h⟩ :=
    tampering_is_pinned hA hB rfl rfl hp hops hroom hempty
  obtain ⟨-, rfl⟩ := start_eq_ok_iff.1 ha
  have hframes : framesOf (fresh {}) 0 interrupted = genuine := by decide +kernel
  rw [hframes] at h
  have haltered : List.Forall₂ Altered genuine forged :=
    .cons (.command ..) <| .cons (.reset ..) <| .cons (.command ..) .nil
  obtain ⟨bs, before, f, f', after, after', d, hwrite, hgenuine, hforged, htold, h⟩ :=
    h forged haltered (by decide)
  obtain ⟨r, hopen, h⟩ := h { pending := bs } rfl rfl
  obtain ⟨hresult, hstate⟩ := h id
  obtain ⟨hdone, hlength, rfl⟩ := last_of_told_forged hgenuine hforged htold
  rw [hlength] at hresult
  rw [hdone] at hstate
  exact ⟨b, bs, r, hb, hwrite, hopen, hresult, hstate⟩

end TorusRobot.Replay
