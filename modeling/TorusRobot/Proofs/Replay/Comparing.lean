/-
**Comparing frame by frame.**

A comparison reads and does again in turn.  It comes to the same to read all the frames first and
then to go through them, because doing an action again has no influence on what is read.

Main definitions:

* `TorusRobot.Replay.compareFrames` — the comparison of frames that were read beforehand;
* `TorusRobot.Replay.Retraces` — doing frames again differs nowhere.

Main results:

* `TorusRobot.Replay.compare_eq` — **comparing is reading all, then going through the frames**;
* `TorusRobot.Replay.compareFrames_of_retraces` — frames that are retraced have no divergence;
* `TorusRobot.Replay.compareFrames_append` — and the comparison goes on behind them.
-/
import TorusRobot.Proofs.Recording.RoundTrip
import TorusRobot.Replay.Comparison

set_option relaxedAutoImplicit false
set_option autoImplicit false

namespace TorusRobot.Replay

open Recording

variable {σ : Type} {redo : σ → Action → Except Fault Redone × σ}

/-- The comparison of frames that were read beforehand; `ending` is how their reading ended. -/
def compareFrames (redo : σ → Action → Except Fault Redone × σ) (ending : Except Fault Unit) :
    List Frame → σ → Except Fault (Option Divergence) × σ
  | [], s => (ending.map fun _ => none, s)
  | f :: fs, s =>
    match redo s f.action with
    | (.error fault, s') => (.error fault, s')
    | (.ok redone, s') =>
      match divergence? f redone with
      | some d => (.ok (some d), s')
      | none => compareFrames redo ending fs s'

/-- **Comparing is reading all, then going through the frames.** -/
theorem compare_eq (redo : σ → Action → Except Fault Redone × σ) (r : Reader) (s : σ) :
    ((compare redo r s).result, (compare redo r s).state) =
      compareFrames redo r.readAll.2.1 r.readAll.1 s := by
  -- the cases of the comparison: how reading ends, then what becomes of a frame
  fun_induction compare redo r s with
  | case1 r s fault r' hn =>
      rw [Reader.readAll_of_error hn]
      rfl
  | case2 r s r' hn =>
      rw [Reader.readAll_of_none hn]
      rfl
  | case3 r s f r' hn fault s' hredo =>
      rw [Reader.readAll_of_some hn]
      simp only [compareFrames, hredo]
  | case4 r s f r' hn redone s' hredo d hd =>
      rw [Reader.readAll_of_some hn]
      simp only [compareFrames, hredo, hd]
  | case5 r s f r' hn redone s' hredo hd ih =>
      rw [Reader.readAll_of_some hn, ih]
      simp only [compareFrames, hredo, hd]

/-- Doing the frames again from `s` differs nowhere and leads to `s'`. -/
inductive Retraces (redo : σ → Action → Except Fault Redone × σ) : σ → List Frame → σ → Prop where
  | nil (s : σ) : Retraces redo s [] s
  | cons {s s₁ s' : σ} {f : Frame} {fs : List Frame} {redone : Redone}
      (hredo : redo s f.action = (.ok redone, s₁)) (hd : divergence? f redone = none)
      (hfs : Retraces redo s₁ fs s') : Retraces redo s (f :: fs) s'

/-- What is retraced up to a clean end has no divergence. -/
theorem compareFrames_of_retraces {s s' : σ} {fs : List Frame} (h : Retraces redo s fs s') :
    compareFrames redo (.ok ()) fs s = (.ok none, s') := by
  induction h with
  | nil s => rfl
  | cons hredo hd _ ih => simp only [compareFrames, hredo, hd, ih]

/-- Behind frames that are retraced the comparison goes on. -/
theorem compareFrames_append {s s' : σ} {fs : List Frame} (h : Retraces redo s fs s')
    (ending : Except Fault Unit) (rest : List Frame) :
    compareFrames redo ending (fs ++ rest) s = compareFrames redo ending rest s' := by
  induction h with
  | nil s => rfl
  | cons hredo hd _ ih => simp only [List.cons_append, compareFrames, hredo, hd, ih]

/-- Where frames are retraced, so are the first of them, and then the others. -/
theorem Retraces.of_append {s s' : σ} {fs rest : List Frame}
    (h : Retraces redo s (fs ++ rest) s') :
    ∃ s₁, Retraces redo s fs s₁ ∧ Retraces redo s₁ rest s' := by
  induction fs generalizing s with
  | nil => exact ⟨s, .nil s, h⟩
  | cons f fs ih =>
      cases h with
      | cons hredo hd hfs =>
          obtain ⟨s₁, hfs₁, hrest⟩ := ih hfs
          exact ⟨s₁, .cons hredo hd hfs₁, hrest⟩

end TorusRobot.Replay
