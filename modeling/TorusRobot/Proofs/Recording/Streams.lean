/-
**Streams of frames.**

A reader can be asked on after a fault, and then it goes on in the midst of bytes that are no frame.
A stream does not: it gives what asking the reader again and again gives, up to and including the
first fault, and then it gives nothing more, whatever bytes are left.  The end is no fault, and
behind it there is nothing to ask for.

Every frame takes its bytes off what is left, and no frame is shorter than its two numbers and its
tag.  So there are no more frames in a stream than so many bytes leave room for.

Main definitions:

* `TorusRobot.Recording.Source.Exhausted` — nothing is left, and the source has not failed;
* `TorusRobot.Recording.Reader.item?` — what a stream makes of an answer of the reader;
* `TorusRobot.Recording.FrameStream.after` — a stream that was asked so many times;
* `TorusRobot.Recording.FrameStream.Tracks` — a stream that has met no fault, beside a reader.

Main results:

* `TorusRobot.Recording.Reader.length_next_add_le` — every frame takes seventeen bytes at least;
* `TorusRobot.Recording.FrameStream.Tracks.next` — as long as there is no fault, the stream gives
  what the reader gives;
* `TorusRobot.Recording.FrameStream.getElem?_drain` — going through a stream is asking it again and
  again;
* `TorusRobot.Recording.Reader.drain_frames` — what is in a stream, and how many frames;
* `TorusRobot.Recording.streams_stop_at_first_fault` — **streams end with the first fault**.
-/
import TorusRobot.Proofs.Recording.Delivery

set_option relaxedAutoImplicit false
set_option autoImplicit false

namespace TorusRobot.Recording

/-! ### What a frame takes -/

/-- The two numbers of a frame and its tag. -/
theorem Frame.le_length_bytes (f : Frame) : 17 ≤ f.bytes.length := by
  have htag : 1 ≤ f.action.bytes.length := by
    cases f.action with
    | command line status => exact Nat.le_add_left 1 _
    | reset => exact Nat.le_refl 1
  rw [Frame.bytes, List.length_append, List.length_append, LittleEndian.length_word64,
    LittleEndian.length_word64]
  omega

/-- **Every frame takes seventeen bytes at least.** -/
theorem Reader.length_next_add_le {r r' : Reader} {f : Frame} (h : r.next = (.ok (some f), r')) :
    r'.source.pending.length + 17 ≤ r.source.pending.length := by
  obtain ⟨-, hp⟩ := Source.pending_of_readFrame? (readFrame?_of_next h)
  have hf := f.le_length_bytes
  rw [hp, List.length_append]
  omega

/-! ### Behind the end -/

namespace Source

variable {s s' : Source}

/-- Nothing is left, and the source has not failed. -/
structure Exhausted (s : Source) : Prop where
  pending : s.pending = []
  allowance : s.allowance ≠ some 0

/-- An exhausted source hands out nothing and stays exhausted. -/
theorem Exhausted.hand (h : s.Exhausted) (n : Nat) :
    (s.hand n).1 = .bytes [] ∧ (s.hand n).2.Exhausted := by
  obtain ⟨pending, cues, allowance⟩ := s
  obtain ⟨hp, ha⟩ := h
  dsimp only at hp ha
  subst hp
  refine ⟨by simp [Source.hand], by simp [Source.hand], ?_⟩
  cases allowance with
  | none => simp [Source.hand]
  | some m => simpa [Source.hand] using ha

/-- It may still be interrupted. -/
theorem Exhausted.read (h : s.Exhausted) (want : Nat) :
    ((s.read want).1 = .interrupted ∨ (s.read want).1 = .bytes []) ∧
      (s.read want).2.Exhausted := by
  unfold Source.read
  rw [if_neg h.allowance]
  split
  · exact ⟨.inr (h.hand want).1, (h.hand want).2⟩
  · exact ⟨.inl rfl, h.pending, h.allowance⟩
  · rename_i most cues hc
    have h' : Exhausted { s with cues := cues } := ⟨h.pending, h.allowance⟩
    exact ⟨.inr (h'.hand _).1, (h'.hand _).2⟩

theorem Exhausted.gather (h : s.Exhausted) {want : Nat} (hw : want ≠ 0) (got : List UInt8) :
    (s.gather want got).1 = .ended got.reverse ∧ (s.gather want got).2.Exhausted := by
  fun_induction Source.gather s want got with
  | case1 => exact absurd rfl hw
  | case2 s want got hne s₁ hr ih =>
      have hread := h.read want
      rw [hr] at hread
      exact ih hread.2 hw
  | case3 s want got hne s₁ hr =>
      have hread := h.read want
      rw [hr] at hread
      simp at hread
  | case4 s want got hne s₁ hr =>
      have hread := h.read want
      rw [hr] at hread
      exact ⟨rfl, hread.2⟩
  | case5 s want got hne b bs s₁ hr ih =>
      have hread := h.read want
      rw [hr] at hread
      simp at hread

/-- A read that hands out nothing leaves an exhausted source. -/
theorem exhausted_of_read {want : Nat} (hw : want ≠ 0) (h : s.read want = (.bytes [], s')) :
    s'.Exhausted := by
  have hp := pending_of_read_nil hw h
  have ha : s.allowance ≠ some 0 := by
    intro ha
    rw [Source.read, if_pos ha] at h
    cases h
  have hread := (Exhausted.mk hp ha).read want
  rw [h] at hread
  exact hread.2

theorem exhausted_of_gather {want : Nat} {got bs : List UInt8}
    (h : s.gather want got = (.ended bs, s')) : s'.Exhausted := by
  fun_induction Source.gather s want got with
  | case1 => cases h
  | case2 s want got hne s₁ hr ih => exact ih h
  | case3 => cases h
  | case4 s want got hne s₁ hr =>
      cases h
      exact exhausted_of_read hne hr
  | case5 s want got hne b bs s₁ hr ih => exact ih h

/-- Where there is nothing left there is no frame. -/
theorem Exhausted.readFrame? (h : s.Exhausted) :
    (readFrame? s).1 = .ok none ∧ (readFrame? s).2.Exhausted := by
  obtain ⟨hfst, hsnd⟩ := h.gather (show 8 ≠ 0 by decide) []
  have hseq : readSeq? s = (.ok none, (s.gather 8 []).2) := by
    rw [readSeq?, show s.gather 8 [] = (.ended [], (s.gather 8 []).2) from Prod.ext hfst rfl]
  rw [Source.readFrame?, Transfer.bind_of_ok hseq]
  exact ⟨rfl, hsnd⟩

/-- **The end is final**: where it has come there is nothing left. -/
theorem exhausted_of_readFrame? (h : Source.readFrame? s = (.ok none, s')) : s'.Exhausted := by
  obtain ⟨seq?, s₁, hseq, h⟩ := Transfer.bind_eq_ok h
  cases seq? with
  | none =>
      obtain ⟨-, rfl⟩ := pure_eq_ok h
      unfold readSeq? at hseq
      split at hseq
      · cases hseq
      · rename_i e
        cases hseq
        exact exhausted_of_gather e
      · cases hseq
      · cases hseq
  | some seq =>
      obtain ⟨f, s₂, -, h⟩ := Transfer.bind_eq_ok h
      cases (pure_eq_ok h).1

end Source

/-! ### Streams beside readers -/

/-- What a stream makes of an answer of the reader: a frame or a fault is an item, the end is
none. -/
def Reader.item? : Except Fault (Option Frame) → Option (Except Fault Frame)
  | .ok f? => f?.map .ok
  | .error fault => some (.error fault)

namespace FrameStream

variable {s : FrameStream} {r : Reader}

/-- The stream after it was asked `i` times. -/
def after (s : FrameStream) : Nat → FrameStream
  | 0 => s
  | i + 1 => (s.after i).next.2

theorem after_next (s : FrameStream) (i : Nat) : s.next.2.after i = s.after (i + 1) := by
  induction i with
  | zero => rfl
  | succ i ih => rw [after, ih, ← after]

theorem next_of_done (h : s.done = true) : s.next = (none, s) := by
  rw [next, if_pos h]

/-- A stream that is done stays so. -/
theorem after_of_done (h : s.done = true) (i : Nat) : s.after i = s := by
  induction i with
  | zero => rfl
  | succ i ih => rw [after, ih, next_of_done h]

/-- The stream has met no fault: it stands where the reader stands, unless both have come to the
end. -/
inductive Tracks (r : Reader) (s : FrameStream) : Prop where
  | reading (hsource : s.source = r.source) (hdone : s.done = false)
  | ended (hdone : s.done = true) (h : r.source.Exhausted)

/-- **As long as there is no fault, the stream gives what the reader gives**; with a fault it is
done. -/
theorem Tracks.next (h : Tracks r s) :
    s.next.1 = Reader.item? r.next.1 ∧
      ((∃ fault, r.next.1 = .error fault) ∧ s.next.2.done = true ∨
        (∃ f?, r.next.1 = .ok f?) ∧ Tracks r.next.2 s.next.2) := by
  obtain ⟨hfst, hsnd, -⟩ := r.next_eq
  cases h with
  | reading hsource hdone =>
      rw [FrameStream.next, hsource, hdone, if_neg Bool.false_ne_true, hfst]
      split
      · rename_i f rest hread
        rw [hread] at hsnd ⊢
        exact ⟨rfl, .inr ⟨⟨_, rfl⟩, .reading hsnd.symm rfl⟩⟩
      · rename_i rest hread
        rw [hread] at hsnd ⊢
        refine ⟨rfl, .inr ⟨⟨_, rfl⟩, .ended rfl ?_⟩⟩
        rw [hsnd]
        exact Source.exhausted_of_readFrame? hread
      · rename_i fault rest hread
        rw [hread]
        exact ⟨rfl, .inl ⟨⟨fault, rfl⟩, rfl⟩⟩
  | ended hdone hleft =>
      obtain ⟨hnone, hleft'⟩ := hleft.readFrame?
      rw [next_of_done hdone, hfst, hnone]
      refine ⟨rfl, .inr ⟨⟨none, rfl⟩, .ended hdone ?_⟩⟩
      rwa [hsnd]

/-- Asked `i` times, a stream that had met no fault has met none, and neither has the reader, or
it is done. -/
theorem Tracks.after (h : Tracks r s) (i : Nat) :
    (Tracks (r.after i) (s.after i) ∧ ∀ j < i, ∀ fault, (r.after j).next.1 ≠ .error fault) ∨
      ((∃ j < i, ∃ fault, (r.after j).next.1 = .error fault) ∧ (s.after i).done = true) := by
  induction i with
  | zero => exact .inl ⟨h, fun j hj => absurd hj (Nat.not_lt_zero j)⟩
  | succ i ih =>
      rcases ih with ⟨hi, hok⟩ | ⟨⟨j, hj, hfault⟩, hdone⟩
      · rcases hi.next.2 with ⟨hfault, hdone⟩ | ⟨⟨f?, hf⟩, hnext⟩
        · exact .inr ⟨⟨i, Nat.lt_succ_self i, hfault⟩, hdone⟩
        · refine .inl ⟨hnext, fun j hj fault hfault => ?_⟩
          rcases Nat.lt_succ_iff_lt_or_eq.1 hj with hj | rfl
          · exact hok j hj fault hfault
          · rw [hf] at hfault
            cases hfault
      · rw [FrameStream.after, next_of_done hdone]
        exact .inr ⟨⟨j, Nat.lt_succ_of_lt hj, hfault⟩, hdone⟩

/-! ### Going through a stream -/

theorem drain_of_none {s' : FrameStream} (h : s.next = (none, s')) : s.drain = ([], s') := by
  rw [drain]
  split <;> simp_all

theorem drain_of_some {s' : FrameStream} {item : Except Fault Frame}
    (h : s.next = (some item, s')) : s.drain = (item :: s'.drain.1, s'.drain.2) := by
  rw [drain]
  split <;> simp_all

/-- A stream that has given nothing is done. -/
theorem done_of_next {s' : FrameStream} (h : s.next = (none, s')) : s'.done = true := by
  unfold next at h
  split at h
  · rename_i hdone
    cases h
    exact hdone
  · split at h
    · cases h
    · cases h
      rfl
    · cases h

/-- **Going through a stream is asking it again and again**; behind the last item there is nothing,
however often it is asked. -/
theorem getElem?_drain (s : FrameStream) (i : Nat) : (s.after i).next.1 = s.drain.1[i]? := by
  fun_induction drain s generalizing i with
  | case1 s s' hnext =>
      rw [List.getElem?_nil]
      cases i with
      | zero => rw [after, hnext]
      | succ i =>
          have hdone := done_of_next hnext
          rw [← after_next, hnext, after_of_done hdone, next_of_done hdone]
  | case2 s item s' hnext items last hdrain ih =>
      rw [hdrain] at ih
      cases i with
      | zero => rw [after, hnext, List.getElem?_cons_zero]
      | succ i => rw [← after_next, hnext, ih, List.getElem?_cons_succ]

end FrameStream

namespace Reader

variable {r : Reader}

theorem tracks_frames (r : Reader) : FrameStream.Tracks r r.frames := .reading rfl rfl

theorem after_after (r : Reader) (k i : Nat) : (r.after k).after i = r.after (k + i) := by
  induction i with
  | zero => rfl
  | succ i ih => rw [after, ih, ← Nat.add_assoc, after]

/-- **The answers of the reader**, up to and including the first fault. -/
theorem next_after_frames {i : Nat} (hok : ∀ j < i, ∀ fault, (r.after j).next.1 ≠ .error fault) :
    (r.frames.after i).next.1 = item? (r.after i).next.1 := by
  rcases (tracks_frames r).after i with ⟨h, -⟩ | ⟨⟨j, hj, fault, hfault⟩, -⟩
  · exact h.next.1
  · exact absurd hfault (hok j hj fault)

/-- Behind a fault of the reader the stream is done. -/
theorem done_after_frames {i j : Nat} {fault : Fault} (hji : j < i)
    (h : (r.after j).next.1 = .error fault) : (r.frames.after i).done = true := by
  rcases (tracks_frames r).after i with ⟨-, hok⟩ | ⟨-, hdone⟩
  · exact absurd h (hok j hji fault)
  · exact hdone

/-- How reading all the frames ends, as the last item of a stream. -/
def lastItem (ending : Except Fault Unit) : List (Except Fault Frame) :=
  match ending with
  | .ok () => []
  | .error fault => [.error fault]

/-- **What is in a stream**: the frames that the reader gives up to the first fault or the end, and
then the fault, if it is one.  No frame shares its bytes with another. -/
theorem drain_frames (r : Reader) :
    r.frames.drain.1 = r.readAll.1.map .ok ++ lastItem r.readAll.2.1 ∧
      17 * r.readAll.1.length ≤ r.source.pending.length := by
  fun_induction readAll r with
  | case1 r f r' hnext fs ending last hread ih =>
      rw [hread] at ih
      have hitem : r.frames.next = (some (.ok f), r'.frames) := by
        rw [FrameStream.next, frames, readFrame?_of_next hnext]
        rfl
      have htakes := length_next_add_le hnext
      rw [FrameStream.drain_of_some hitem, ih.1, List.length_cons]
      refine ⟨rfl, ?_⟩
      have hrest := ih.2
      dsimp only at hrest
      omega
  | case2 r r' hnext =>
      have hitem : r.frames.next = (none, { source := r'.source, done := true }) := by
        rw [FrameStream.next, frames, readFrame?_of_next hnext]
        rfl
      rw [FrameStream.drain_of_none hitem]
      exact ⟨rfl, Nat.zero_le _⟩
  | case3 r fault r' hnext =>
      have hitem : r.frames.next =
          (some (.error fault), { source := r'.source, done := true }) := by
        rw [FrameStream.next, frames, readFrame?_of_next hnext]
        rfl
      have hdone : FrameStream.next { source := r'.source, done := true } = (none, _) :=
        FrameStream.next_of_done rfl
      rw [FrameStream.drain_of_some hitem, FrameStream.drain_of_none hdone]
      exact ⟨rfl, Nat.zero_le _⟩

end Reader

/-- **Streams end with the first fault.**  A reader was asked for `k` frames, whatever these came
to, and a stream is made of it.  As long as the reader, asked on, meets no fault, the stream gives
what the reader gives, a first fault included.  Behind a fault of the reader the stream gives
nothing, however often it is asked, and once it has given nothing it never gives anything.  So what
is in the stream is some frames and at most one fault behind them.  Every frame that the reader
gives takes seventeen bytes at least, and the stream has no more frames than there is room for in
the bytes that are left when it is made. -/
theorem streams_stop_at_first_fault (r : Reader) (k : Nat) :
    (∀ i, (∀ j < i, ∀ fault, (r.after (k + j)).next.1 ≠ .error fault) →
      ((r.after k).frames.after i).next.1 = Reader.item? (r.after (k + i)).next.1) ∧
    (∀ i j fault, j < i → (r.after (k + j)).next.1 = .error fault →
      ((r.after k).frames.after i).next.1 = none) ∧
    (∀ i j, i ≤ j → ((r.after k).frames.after i).next.1 = none →
      ((r.after k).frames.after j).next.1 = none) ∧
    (∀ i, ((r.after k).frames.after i).next.1 = (r.after k).frames.drain.1[i]?) ∧
    (∃ (fs : List Frame) (ending : Except Fault Unit),
      (r.after k).frames.drain.1 = fs.map .ok ++ Reader.lastItem ending ∧
      fs.length ≤ (r.after k).source.pending.length / 17) ∧
    (∀ i f, (r.after i).next.1 = .ok (some f) →
      (r.after (i + 1)).source.pending.length + 17 ≤ (r.after i).source.pending.length) := by
  refine ⟨fun i hok => ?_, fun i j fault hji h => ?_, fun i j hij h => ?_,
    FrameStream.getElem?_drain _, ?_, fun i f h => ?_⟩
  · rw [← Reader.after_after]
    refine Reader.next_after_frames fun j hj => ?_
    rw [Reader.after_after]
    exact hok j hj
  · rw [← Reader.after_after] at h
    rw [FrameStream.next_of_done (Reader.done_after_frames hji h)]
  · rw [FrameStream.getElem?_drain, List.getElem?_eq_none_iff] at h ⊢
    exact Nat.le_trans h hij
  · obtain ⟨hitems, hroom⟩ := (r.after k).drain_frames
    refine ⟨_, _, hitems, ?_⟩
    rw [Nat.le_div_iff_mul_le (by decide), Nat.mul_comm]
    exact hroom
  · exact Reader.length_next_add_le (Prod.ext h rfl)

/-- Two frames, then a frame with an unknown tag that breaks off behind it, and then a frame. -/
def damaged : List UInt8 :=
  [1, 0, 0, 0, 0, 0, 0, 0, 1, 9, 0, 0, 0, 0, 0, 0, 0,
   2, 0, 0, 0, 0, 0, 0, 0, 1, 8, 0, 0, 0, 0, 0, 0, 0,
   3, 0, 0, 0, 0, 0, 0, 0, 7,
   4, 0, 0, 0, 0, 0, 0, 0, 1, 6, 0, 0, 0, 0, 0, 0, 0]

/-- A damaged recording, of which the first frame is read before the stream is made: the stream
gives the second frame and the fault, although the reader, asked on, gives the frame behind the
fault. -/
theorem streams_stop_at_first_fault_damaged :
    ∃ r : Reader, r.source.pending = damaged ∧ r.next.1 = .ok (some ⟨1, .reset, 9⟩) ∧
      (r.after 3).next.1 = .ok (some ⟨4, .reset, 6⟩) ∧
      (r.after 1).frames.next.1 = some (.ok ⟨2, .reset, 8⟩) ∧
      ((r.after 1).frames.after 1).next.1 = some (.error (.malformed (.unknownTag 7))) ∧
      ∀ i, 2 ≤ i → ((r.after 1).frames.after i).next.1 = none := by
  -- the first read is interrupted and the second one hands out a single byte
  let r : Reader :=
    { source := { pending := damaged, cues := [.interrupt, .short 1] }, header := plainHeader }
  have h₀ : r.next = (.ok (some ⟨1, .reset, 9⟩),
      { r with source := { pending := damaged.drop 17 }, framesRead := 1 }) := by
    cbv
  have h₁ : (r.after 1).next = (.ok (some ⟨2, .reset, 8⟩),
      { r with source := { pending := damaged.drop 34 }, framesRead := 2 }) := by
    rw [Reader.after, Reader.after, h₀]
    dsimp only
    cbv
  have h₂ : (r.after 2).next = (.error (.malformed (.unknownTag 7)),
      { r with source := { pending := damaged.drop 43 }, framesRead := 2 }) := by
    rw [Reader.after, h₁]
    dsimp only
    cbv
  have h₃ : (r.after 3).next.1 = .ok (some ⟨4, .reset, 6⟩) := by
    rw [Reader.after, h₂]
    dsimp only
    cbv
  obtain ⟨hsame, hbehind, -⟩ := streams_stop_at_first_fault r 1
  refine ⟨r, rfl, congrArg Prod.fst h₀, h₃, ?_, ?_, fun i hi => ?_⟩
  · rw [show (r.after 1).frames.next.1 = _ from hsame 0 (by simp), h₁]
    rfl
  · rw [hsame 1, h₂]
    · rfl
    · intro j hj fault h
      obtain rfl := Nat.lt_one_iff.1 hj
      rw [h₁] at h
      cases h
  · exact hbehind i 1 _ hi (congrArg Prod.fst h₂)

end TorusRobot.Recording
