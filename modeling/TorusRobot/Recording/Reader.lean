/-
**Reading a recording.**

A reader has read the header and gives the frames one after another.  After a fault it can be asked
on; a stream of frames ends with the first fault.

Main definitions:

* `TorusRobot.Recording.Reader` — a recording that is being read;
* `TorusRobot.Recording.Reader.ofSource`, `TorusRobot.Recording.Reader.next` — starting, and the
  next frame;
* `TorusRobot.Recording.FrameStream` — the frames up to the end or the first fault.

Main results:

* `TorusRobot.Recording.Reader.length_next_lt` — every frame makes the rest shorter.
-/
import TorusRobot.Recording.Format

set_option relaxedAutoImplicit false
set_option autoImplicit false

namespace TorusRobot.Recording

/-- A recording whose header was read. -/
structure Reader where
  source : Source
  header : Header
  framesRead : Nat := 0
deriving DecidableEq, Repr

namespace Reader

/-- The header is read. -/
def ofSource (s : Source) : Except Fault Reader :=
  match Source.readHeader s with
  | (.ok header, s) => .ok { source := s, header := header }
  | (.error fault, _) => .error fault

/-- The next frame, or `none` at the end. -/
def next (r : Reader) : Except Fault (Option Frame) × Reader :=
  match Source.readFrame? r.source with
  | (.ok (some frame), s) =>
    (.ok (some frame), { r with source := s, framesRead := r.framesRead + 1 })
  | (.ok none, s) => (.ok none, { r with source := s })
  | (.error fault, s) => (.error fault, { r with source := s })

/-- Every frame makes the rest shorter. -/
theorem length_next_lt {r r' : Reader} {frame : Frame} (h : r.next = (.ok (some frame), r')) :
    r'.source.pending.length < r.source.pending.length := by
  unfold next at h
  split at h
  · rename_i e
    simp only [Prod.mk.injEq] at h
    obtain ⟨_, rfl⟩ := h
    exact Source.length_readFrame?_lt e
  all_goals simp at h

end Reader

/-! ### Streams -/

/-- The frames of a recording up to the end or the first fault. -/
structure FrameStream where
  source : Source
  done : Bool := false
deriving DecidableEq, Repr

/-- The frames that a reader has not given yet. -/
def Reader.frames (r : Reader) : FrameStream := { source := r.source }

namespace FrameStream

/-- The next frame or the first fault, or `none` when there is nothing more. -/
def next (s : FrameStream) : Option (Except Fault Frame) × FrameStream :=
  if s.done then (none, s)
  else
    match Source.readFrame? s.source with
    | (.ok (some frame), rest) => (some (.ok frame), { s with source := rest })
    | (.ok none, rest) => (none, { source := rest, done := true })
    | (.error fault, rest) => (some (.error fault), { source := rest, done := true })

/-- A bound on what a stream still gives. -/
def measure (s : FrameStream) : Nat := if s.done then 0 else s.source.pending.length + 1

/-- Whatever a stream gives makes the bound smaller. -/
theorem measure_next_lt {s s' : FrameStream} {r : Except Fault Frame}
    (h : s.next = (some r, s')) : s'.measure < s.measure := by
  unfold next at h
  split at h
  · simp at h
  · rename_i hd
    split at h
    · rename_i e
      simp only [Prod.mk.injEq] at h
      obtain ⟨_, rfl⟩ := h
      have := Source.length_readFrame?_lt e
      simp only [measure, hd]
      split <;> simp_all
    · simp at h
    · simp only [Prod.mk.injEq] at h
      obtain ⟨_, rfl⟩ := h
      simp [measure, hd]

/-- All that a stream gives, and the stream afterwards. -/
def drain (s : FrameStream) : List (Except Fault Frame) × FrameStream :=
  match _h : s.next with
  | (none, s') => ([], s')
  | (some r, s') =>
    let (rs, last) := s'.drain
    (r :: rs, last)
termination_by s.measure
decreasing_by exact measure_next_lt _h

end FrameStream

end TorusRobot.Recording
