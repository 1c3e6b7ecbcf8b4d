/-
**Where a comparison stops.**

A comparison does the frames of a recording again one by one.  It stops at the first frame whose
action cannot be done again or comes out otherwise than it was recorded, and what it tells is
settled by that frame alone: nothing behind it is read, and nothing behind it is done.  If there is
no such frame, every frame is done again, and the end of the recording settles what is told.

Main definitions:

* `TorusRobot.Replay.Agrees`, `TorusRobot.Replay.Stops` — what comes of doing a frame again: it is
  as it was recorded, or it is a reason to stop;
* `TorusRobot.Replay.through`, `TorusRobot.Replay.AgreesAlong` — the state behind frames that are
  done again, and that all of them come out as they were recorded;
* `TorusRobot.Replay.StopsAt`, `TorusRobot.Replay.GoesThrough` — a comparison that has stopped at a
  frame, and one that has come to the end;
* `TorusRobot.Replay.calls` — the actions that a comparison does again, by taking notes of them.

Main results:

* `TorusRobot.Replay.Stops.not_agrees` — a frame that is a reason to stop does not agree;
* `TorusRobot.Replay.compare_cases` — a comparison has stopped at a frame or come to the end;
* `TorusRobot.Replay.compare_noting` — taking notes does not change what is compared;
* `TorusRobot.Replay.comparison_stops_at_first_divergence` — **what a comparison does and tells**.
-/
import TorusRobot.Proofs.Recording.Delivery
import TorusRobot.Proofs.Recording.Truncation
import TorusRobot.Proofs.Replay.Comparing

set_option relaxedAutoImplicit false
set_option autoImplicit false

namespace TorusRobot.Replay

open Recording

variable {σ : Type} {redo : σ → Action → Except Fault Redone × σ} {r : Reader} {s : σ}
  {f : Frame} {fs : List Frame} {redone : Redone}

/-! ### One frame -/

/-- A frame is done again as it was recorded: a command with the same status, and everything with
the same digest. -/
structure Agrees (f : Frame) (redone : Redone) : Prop where
  status : ∀ line status, f.action = .command line status → redone.status = some status
  digest : redone.digest = f.digest

/-- What comes of doing a frame again is a reason to stop with a certain result: a fault of its own,
or else a status that is not the recorded one, or else such a digest. -/
inductive Stops (f : Frame) : Except Fault Redone → Except Fault (Option Divergence) → Prop where
  | fault (fault : Fault) : Stops f (.error fault) (.error fault)
  | status {line : String} {status : Status} {redone : Redone}
      (hf : f.action = .command line status) (hne : redone.status ≠ some status) :
      Stops f (.ok redone) (.ok (some ⟨f.seq, .status status redone.status⟩))
  | digest {redone : Redone}
      (hs : ∀ line status, f.action = .command line status → redone.status = some status)
      (hne : redone.digest ≠ f.digest) :
      Stops f (.ok redone) (.ok (some ⟨f.seq, .digest f.digest redone.digest⟩))

/-- A frame that is a reason to stop does not agree. -/
theorem Stops.not_agrees {result : Except Fault (Option Divergence)}
    (h : Stops f (.ok redone) result) : ¬Agrees f redone := by
  rintro ⟨hstatus, hdigest⟩
  cases h with
  | status hf hne => exact hne (hstatus _ _ hf)
  | digest hs hne => exact hne hdigest

theorem agrees_of_divergence?_eq_none (h : divergence? f redone = none) : Agrees f redone := by
  obtain ⟨hstatus, hdigest⟩ := divergence?_eq_none_iff.1 h
  exact ⟨hstatus, hdigest⟩

section StatusDifference

variable {action : Action} {status? : Option Status}

theorem eq_some_of_statusDifference?_eq_none (h : statusDifference? action status? = none)
    (line : String) (status : Status) (ha : action = .command line status) :
    status? = some status := by
  subst ha
  simpa [statusDifference?] using h

theorem exists_of_statusDifference?_eq_some {d : Difference}
    (h : statusDifference? action status? = some d) :
    ∃ line status, action = .command line status ∧ status? ≠ some status ∧
      d = .status status status? := by
  cases action with
  | command line status =>
      obtain ⟨hne, rfl⟩ := by simpa [statusDifference?] using h
      exact ⟨line, status, rfl, hne, rfl⟩
  | reset => cases h

end StatusDifference

/-- What differs of a frame is a reason to stop: its status, and if not that, its digest. -/
theorem stops_of_divergence?_eq_some {d : Divergence} (h : divergence? f redone = some d) :
    Stops f (.ok redone) (.ok (some d)) := by
  obtain ⟨e, he, rfl⟩ := Option.map_eq_some_iff.1 h
  unfold difference? at he
  split at he
  · rename_i e' hs
    obtain ⟨line, status, hf, hne, rfl⟩ := exists_of_statusDifference?_eq_some hs
    cases he
    exact .status hf hne
  · rename_i hs
    split at he
    · cases he
    · rename_i hne
      cases he
      exact .digest (eq_some_of_statusDifference?_eq_none hs) hne

/-! ### Several frames -/

/-- The state in which doing frames again ends, whatever comes of it. -/
def through (redo : σ → Action → Except Fault Redone × σ) (s : σ) (fs : List Frame) : σ :=
  fs.foldl (fun s f => (redo s f.action).2) s

@[simp] theorem through_nil : through redo s [] = s := rfl

@[simp] theorem through_cons (f : Frame) (fs : List Frame) :
    through redo s (f :: fs) = through redo (redo s f.action).2 fs := rfl

/-- Each of the frames comes out as it was recorded once those before it were done. -/
def AgreesAlong (redo : σ → Action → Except Fault Redone × σ) (s : σ) (fs : List Frame) : Prop :=
  ∀ before f behind, fs = before ++ f :: behind →
    ∃ redone, (redo (through redo s before) f.action).1 = .ok redone ∧ Agrees f redone

theorem agreesAlong_nil : AgreesAlong redo s [] := by
  intro before f behind h
  simp at h

theorem AgreesAlong.cons (hredo : (redo s f.action).1 = .ok redone) (hf : Agrees f redone)
    (hfs : AgreesAlong redo (redo s f.action).2 fs) : AgreesAlong redo s (f :: fs) := by
  intro before g behind h
  cases before with
  | nil =>
      obtain ⟨rfl, -⟩ := List.cons.inj h
      exact ⟨redone, hredo, hf⟩
  | cons f' before =>
      obtain ⟨rfl, hfs'⟩ := List.cons.inj h
      exact hfs before g behind hfs'

/-! ### A whole recording -/

/-- A comparison has stopped at `f`, where all the frames before it agree.  It has done these and
`f`, and it has asked the reader for no others. -/
structure StopsAt (redo : σ → Action → Except Fault Redone × σ) (r : Reader) (s : σ)
    (before : List Frame) (f : Frame) (c : Comparison σ) : Prop where
  agrees : AgreesAlong redo s before
  result : Stops f (redo (through redo s before) f.action).1 c.result
  state : c.state = through redo s (before ++ [f])
  reader : c.reader = r.after (before.length + 1)

/-- A comparison has come to the end: all the frames agree, and it has done all of them and asked
once more.  If reading has ended in a fault, this is the result. -/
structure GoesThrough (redo : σ → Action → Except Fault Redone × σ) (r : Reader) (s : σ)
    (c : Comparison σ) : Prop where
  agrees : AgreesAlong redo s r.readAll.1
  result : c.result = r.readAll.2.1.map fun _ => none
  state : c.state = through redo s r.readAll.1
  reader : c.reader = r.after (r.readAll.1.length + 1)

/-- A reason to stop at the first frame. -/
theorem stopsAt_nil {result : Except Fault (Option Divergence)}
    (h : Stops f (redo s f.action).1 result) :
    StopsAt redo r s [] f ⟨result, r.next.2, (redo s f.action).2⟩ where
  agrees := agreesAlong_nil
  result := h
  state := rfl
  reader := rfl

/-- Behind a frame that agrees, a comparison that stops there stops there. -/
theorem StopsAt.cons {before : List Frame} {g : Frame} {c : Comparison σ}
    (hredo : (redo s f.action).1 = .ok redone) (hf : Agrees f redone)
    (h : StopsAt redo r.next.2 (redo s f.action).2 before g c) :
    StopsAt redo r s (f :: before) g c where
  agrees := .cons hredo hf h.agrees
  result := h.result
  state := h.state
  reader := by rw [h.reader, Reader.after_next, List.length_cons]

theorem goesThrough_of_readAll_eq {ending : Except Fault Unit}
    (h : r.readAll = ([], ending, r.next.2)) :
    GoesThrough redo r s ⟨ending.map fun _ => none, r.next.2, s⟩ where
  agrees := by rw [h]; exact agreesAlong_nil
  result := by rw [h]
  state := by rw [h, through_nil]
  reader := by rw [h]; rfl

theorem GoesThrough.cons {c : Comparison σ}
    (hn : r.next.1 = .ok (some f)) (hredo : (redo s f.action).1 = .ok redone) (hf : Agrees f redone)
    (h : GoesThrough redo r.next.2 (redo s f.action).2 c) : GoesThrough redo r s c := by
  have hread := Reader.readAll_of_some (r := r) (Prod.ext hn rfl)
  exact
    { agrees := by rw [hread]; exact .cons hredo hf h.agrees
      result := by rw [hread]; exact h.result
      state := by rw [hread]; exact h.state
      reader := by rw [hread, h.reader, Reader.after_next, List.length_cons] }

/-- **A comparison has stopped at a frame or come to the end.** -/
theorem compare_cases (redo : σ → Action → Except Fault Redone × σ) (r : Reader) (s : σ) :
    (∃ before f behind, r.readAll.1 = before ++ f :: behind ∧
        StopsAt redo r s before f (compare redo r s)) ∨
      GoesThrough redo r s (compare redo r s) := by
  -- the cases of the comparison: how reading ends, then what becomes of a frame
  fun_induction compare redo r s with
  | case1 r s fault r' hn =>
      obtain rfl : r.next.2 = r' := by rw [hn]
      exact .inr (goesThrough_of_readAll_eq (Reader.readAll_of_error hn))
  | case2 r s r' hn =>
      obtain rfl : r.next.2 = r' := by rw [hn]
      exact .inr (goesThrough_of_readAll_eq (Reader.readAll_of_none hn))
  | case3 r s f r' hn fault s' hredo =>
      obtain rfl : r.next.2 = r' := by rw [hn]
      obtain rfl : (redo s f.action).2 = s' := by rw [hredo]
      refine .inl ⟨[], f, _, congrArg Prod.fst (Reader.readAll_of_some hn), stopsAt_nil ?_⟩
      rw [hredo]
      exact .fault fault
  | case4 r s f r' hn redone s' hredo d hd =>
      obtain rfl : r.next.2 = r' := by rw [hn]
      obtain rfl : (redo s f.action).2 = s' := by rw [hredo]
      refine .inl ⟨[], f, _, congrArg Prod.fst (Reader.readAll_of_some hn), stopsAt_nil ?_⟩
      rw [hredo]
      exact stops_of_divergence?_eq_some hd
  | case5 r s f r' hn redone s' hredo hd ih =>
      obtain rfl : r.next.2 = r' := by rw [hn]
      obtain rfl : (redo s f.action).2 = s' := by rw [hredo]
      have hok : (redo s f.action).1 = .ok redone := by rw [hredo]
      have hagrees := agrees_of_divergence?_eq_none hd
      rcases ih with ⟨before, g, behind, hfs, h⟩ | h
      · refine .inl ⟨f :: before, g, behind, ?_, h.cons hok hagrees⟩
        rw [Reader.readAll_of_some hn, hfs, List.cons_append]
      · exact .inr (h.cons (by rw [hn]) hok hagrees)

/-! ### Taking notes -/

/-- Doing again with a note of every action that is done. -/
def noting (redo : σ → Action → Except Fault Redone × σ) (s : σ × List Action) (action : Action) :
    Except Fault Redone × σ × List Action :=
  ((redo s.1 action).1, (redo s.1 action).2, s.2 ++ [action])

/-- The actions that a comparison does again, in turn. -/
def calls (redo : σ → Action → Except Fault Redone × σ) (r : Reader) (s : σ) : List Action :=
  (compare (noting redo) r (s, [])).state.2

theorem through_noting (s : σ) (noted : List Action) (fs : List Frame) :
    through (noting redo) (s, noted) fs = (through redo s fs, noted ++ fs.map Frame.action) := by
  induction fs generalizing s noted with
  | nil => rw [through_nil, through_nil, List.map_nil, List.append_nil]
  | cons f fs ih =>
      rw [through_cons, through_cons, noting, ih, List.append_assoc, List.map_cons]
      rfl

/-- **Only what doing again gives counts in a comparison**, and not what else its states hold. -/
theorem compare_map {τ : Type} {redo' : τ → Action → Except Fault Redone × τ} (g : τ → σ)
    (hg : ∀ t action, redo (g t) action = ((redo' t action).1, g (redo' t action).2)) (r : Reader)
    (t : τ) :
    compare redo r (g t) =
      ⟨(compare redo' r t).result, (compare redo' r t).reader, g (compare redo' r t).state⟩ := by
  -- the equation of the comparison in each of its cases
  fun_induction compare redo' r t <;> rw [compare] <;> split <;> simp_all

theorem compare_noting (redo : σ → Action → Except Fault Redone × σ) (r : Reader) (s : σ) :
    compare redo r s =
      ⟨(compare (noting redo) r (s, [])).result, (compare (noting redo) r (s, [])).reader,
        (compare (noting redo) r (s, [])).state.1⟩ :=
  compare_map Prod.fst (fun _ _ => rfl) r (s, [])

theorem agreesAlong_noting (h : AgreesAlong (noting redo) (s, []) fs) : AgreesAlong redo s fs := by
  intro before f behind hfs
  have hf := h before f behind hfs
  rwa [through_noting] at hf

theorem StopsAt.of_noting {before : List Frame}
    (h : StopsAt (noting redo) r (s, []) before f (compare (noting redo) r (s, []))) :
    StopsAt redo r s before f (compare redo r s) ∧
      calls redo r s = (before ++ [f]).map Frame.action := by
  have hresult := h.result
  have hstate := h.state
  rw [through_noting] at hresult hstate
  rw [compare_noting, calls, hstate]
  exact ⟨⟨agreesAlong_noting h.agrees, hresult, rfl, h.reader⟩, rfl⟩

theorem GoesThrough.of_noting
    (h : GoesThrough (noting redo) r (s, []) (compare (noting redo) r (s, []))) :
    GoesThrough redo r s (compare redo r s) ∧ calls redo r s = r.readAll.1.map Frame.action := by
  have hstate := h.state
  rw [through_noting] at hstate
  rw [compare_noting, calls, hstate]
  exact ⟨⟨agreesAlong_noting h.agrees, h.result, rfl, h.reader⟩, rfl⟩

/-- **What a comparison does and tells.**  Among the frames that a reader gives up to the end or the
first fault there may be one that cannot be done again, or comes out with a status or a digest that
is not the recorded one.  Then the comparison does again the actions up to the first such frame,
each of them once and in turn, and tells the fault, or else the status, or else the digest.  It has
asked the reader for the frames up to this one and no others.  If there is no such frame, it does
all the actions, and tells the fault in which reading ended or that nothing differs. -/
theorem comparison_stops_at_first_divergence (redo : σ → Action → Except Fault Redone × σ)
    (r : Reader) (s : σ) :
    (∃ before f behind, r.readAll.1 = before ++ f :: behind ∧
        StopsAt redo r s before f (compare redo r s) ∧
        calls redo r s = (before ++ [f]).map Frame.action) ∨
      (GoesThrough redo r s (compare redo r s) ∧
        calls redo r s = r.readAll.1.map Frame.action) := by
  rcases compare_cases (noting redo) r (s, []) with ⟨before, f, behind, hfs, h⟩ | h
  · exact .inl ⟨before, f, behind, hfs, h.of_noting⟩
  · exact .inr h.of_noting

/-- Frames of which the second does not come out as it was recorded if a move works only once. -/
def wayward : List Frame :=
  [⟨1, .command "MOVE" .ok, 5⟩, ⟨2, .command "MOVE" .ok, 6⟩, ⟨3, .reset, 7⟩]

/-- Doing again, where the first action works and the others give no status; the state counts
them. -/
def tiring (done : Nat) (_ : Action) : Except Fault Redone × Nat :=
  (.ok ⟨if done = 0 then some .ok else none, 5⟩, done + 1)

/-- A recording that breaks off behind its third frame, and whose second frame differs: its status
is told, although its digest differs too, and nothing of the damage. -/
theorem comparison_stops_at_first_divergence_damaged :
    ∃ r, Reader.ofSource
        { pending := plainHeader.bytes ++ (wayward.flatMap Frame.bytes ++ [4]) } = .ok r ∧
      r.readAll.1 = wayward ∧ r.readAll.2.1 = .error (.malformed (.truncatedSeq 1)) ∧
      (compare tiring r 0).result = .ok (some ⟨2, .status .ok none⟩) ∧
      (compare tiring r 0).state = 2 ∧
      calls tiring r 0 = [.command "MOVE" .ok, .command "MOVE" .ok] ∧
      (compare tiring r 0).reader = r.after 2 := by
  have hheader : plainHeader.Fits :=
    Header.fits_iff.2 ⟨by decide, by decide, by decide, by decide⟩
  have hfits : ∀ f ∈ wayward, f.Fits := by
    simp only [wayward, List.forall_mem_cons]
    exact ⟨(Frame.fits_of_command rfl).2 (by decide), (Frame.fits_of_command rfl).2 (by decide),
      Frame.fits_of_reset rfl, List.forall_mem_nil _⟩
  have hnext : ∀ f ∈ [(⟨4, .reset, 0⟩ : Frame)], f.Fits :=
    List.forall_mem_singleton.2 (Frame.fits_of_reset rfl)
  obtain ⟨r, hopen, -, hs, hp⟩ := Reader.ofSource_of_pending
    (s := { pending := plainHeader.bytes ++ (wayward.flatMap Frame.bytes ++ [4]) }) rfl hheader rfl
  obtain ⟨r', hread⟩ := Reader.readAll_of_breaks hs hfits hnext hp ⟨by decide, by decide⟩
  have hframes : r.readAll.1 = wayward := by rw [hread]
  have hending : r.readAll.2.1 = .error (.malformed (.truncatedSeq 1)) := by rw [hread]; rfl
  refine ⟨r, hopen, hframes, hending, ?_⟩
  -- the first frame agrees and the second does not
  have hsecond : ∀ behind, ¬AgreesAlong tiring 0
      (⟨1, .command "MOVE" .ok, 5⟩ :: ⟨2, .command "MOVE" .ok, 6⟩ :: behind) := by
    intro behind h
    obtain ⟨redone, hredo, hagrees⟩ := h [⟨1, .command "MOVE" .ok, 5⟩] _ _ rfl
    obtain rfl := Except.ok.inj hredo
    cases hagrees.digest
  rcases comparison_stops_at_first_divergence tiring r 0 with
    ⟨before, f, behind, hfs, h, hcalls⟩ | ⟨h, -⟩
  · rw [hframes] at hfs
    match before with
    | [] =>
        obtain ⟨rfl, -⟩ := List.cons.inj hfs
        exact absurd ⟨by simp, rfl⟩ h.result.not_agrees
    | [_] =>
        obtain ⟨rfl, rfl, -⟩ := by simpa [wayward] using hfs
        refine ⟨?_, h.state, hcalls, h.reader⟩
        have hresult := h.result
        generalize (compare tiring r 0).result = result at hresult ⊢
        cases hresult with
        | status hf hne => cases hf; rfl
        | digest hs hne => cases hs _ _ rfl
    | _ :: _ :: _ =>
        obtain ⟨rfl, rfl, -⟩ := by simpa [wayward] using hfs
        exact absurd h.agrees (hsecond _)
  · have hagrees := h.agrees
    rw [hframes] at hagrees
    exact absurd hagrees (hsecond _)

end TorusRobot.Replay
