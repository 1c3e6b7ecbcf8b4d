/-
**The format of a recording.**

Numbers are stored with the lowest byte first, texts as their length in bytes and then their bytes,
and no text is longer than the limit.  A recording starts with four fixed bytes and a version; the
rest of the header and the frames follow field by field, without padding.

Main definitions:

* `TorusRobot.Recording.statusTag`, `TorusRobot.Recording.statusOfTag` — statuses as bytes;
* `TorusRobot.Recording.Sink.writeHeader`, `TorusRobot.Recording.Sink.writeFrame` — writing;
* `TorusRobot.Recording.Source.readHeader`, `TorusRobot.Recording.Source.readFrame?` — reading.

Main results:

* `TorusRobot.Recording.Source.keeps_readHeader`, `TorusRobot.Recording.Source.keeps_readFrame?` —
  what gathering bytes respects, reading respects;
* `TorusRobot.Recording.Source.length_readFrame?_lt` — a frame that was read was consumed.
-/
import TorusRobot.Recording.Frame
import TorusRobot.Recording.LittleEndian
import TorusRobot.Recording.Sink
import TorusRobot.Recording.Source

set_option relaxedAutoImplicit false
set_option autoImplicit false

namespace TorusRobot.Recording

/-! ### Tags -/

/-- The bytes with which a recording starts. -/
def magic : List UInt8 := [0x47, 0x42, 0x4F, 0x54]

/-- The version of the format. -/
def formatVersion : UInt8 := 1

/-- The byte that announces a command. -/
def commandTag : UInt8 := 0

/-- The byte that announces a reset. -/
def resetTag : UInt8 := 1

/-- The byte of a status. -/
def statusTag : Status → UInt8
  | .ok => 0
  | .blocked => 1
  | .invalid => 2
  | .notPlaced => 3

/-- The status of a byte. -/
def statusOfTag (tag : UInt8) : Except Fault Status :=
  match Status.all.find? fun s => statusTag s = tag with
  | some s => .ok s
  | none => .error (.unknownStatusTag tag)

@[simp] theorem statusOfTag_statusTag (s : Status) : statusOfTag (statusTag s) = .ok s := by
  cases s <;> rfl

/-- A length that a text may have. -/
def checkLength (n : Nat) : Except Fault Unit :=
  if textLimit < n then .error (.malformed (.textTooLong n)) else .ok ()

/-- An answer that is there already, or a fault, as a transfer. -/
def Transfer.ofExcept {σ α : Type} : Except Fault α → Transfer σ α
  | .ok a => Pure.pure a
  | .error fault => fail fault

/-! ### Writing -/

namespace Sink

/-- One byte is written. -/
def writeByte (b : UInt8) : Transfer Sink Unit := write [b]

/-- Four bytes are written. -/
def writeWord32 (n : UInt32) : Transfer Sink Unit := write (LittleEndian.word32 n)

/-- Eight bytes are written. -/
def writeWord64 (n : UInt64) : Transfer Sink Unit := write (LittleEndian.word64 n)

/-- A text is written, its length first; nothing is written of a text that is too long. -/
def writeText (text : String) : Transfer Sink Unit := do
  let bs := Text.Utf8.encode text
  -- The limit counts bytes, not characters.
  Transfer.ofExcept (checkLength bs.length)
  writeWord32 (UInt32.ofNat bs.length)
  write bs

/-- A header is written. -/
def writeHeader (h : Header) : Transfer Sink Unit := do
  write magic
  writeByte formatVersion
  writeText h.provenance.language
  writeText h.provenance.platform
  writeText h.provenance.program
  writeText h.provenance.build
  writeWord32 h.side
  writeWord64 h.settingsDigest

/-- An action is written: its tag, and for a command the line and the status. -/
def writeAction : Action → Transfer Sink Unit
  | .command line status => do
    writeByte commandTag
    writeText line
    writeByte (statusTag status)
  | .reset => writeByte resetTag

/-- A frame is written: sequence number, action, digest.  A line that is too long is noticed only
when its turn comes, so the fields before it are written all the same. -/
def writeFrame (f : Frame) : Transfer Sink Unit := do
  writeWord64 f.seq
  writeAction f.action
  writeWord64 f.digest

end Sink

/-! ### Reading -/

namespace Source

/-- One byte is read. -/
def readByte : Transfer Source UInt8 := do
  let bs ← readExact 1
  return bs.headD 0

/-- A word of four bytes is read. -/
def readWord32 : Transfer Source UInt32 := do
  let bs ← readExact 4
  return UInt32.ofNat (LittleEndian.decode bs)

/-- A word of eight bytes is read. -/
def readWord64 : Transfer Source UInt64 := do
  let bs ← readExact 8
  return UInt64.ofNat (LittleEndian.decode bs)

/-- The text that bytes stand for. -/
def textOf (bs : List UInt8) : Except Fault String :=
  match Text.Utf8.decode bs with
  | .ok text => .ok text
  | .error fault => .error (.malformed (.notText fault))

/-- A text is read, its length first. -/
def readText : Transfer Source String := do
  let length ← readWord32
  -- A length beyond the limit is refused before any byte of the text is asked for.
  Transfer.ofExcept (checkLength length.toNat)
  let bs ← readExact length.toNat
  Transfer.ofExcept (textOf bs)

/-- The four texts of a provenance are read. -/
def readProvenance : Transfer Source Provenance := do
  let language ← readText
  let platform ← readText
  let program ← readText
  let build ← readText
  return ⟨language, platform, program, build⟩

/-- A header is read; what does not start like a recording of the known version is refused. -/
def readHeader : Transfer Source Header := do
  let start ← readExact 4
  if start = magic then
    let version ← readByte
    if version = formatVersion then
      let provenance ← readProvenance
      let side ← readWord32
      let digest ← readWord64
      return ⟨provenance, side, digest⟩
    else Transfer.fail (.unsupportedVersion version)
  else Transfer.fail .badMagic

/-- An action is read. -/
def readAction : Transfer Source Action := do
  let tag ← readByte
  if tag = commandTag then
    let line ← readText
    let status ← readByte
    let status ← Transfer.ofExcept (statusOfTag status)
    return .command line status
  else if tag = resetTag then return .reset
  else Transfer.fail (.malformed (.unknownTag tag))

/-- A sequence number is read, or `none` if there is no byte left.  Some of its bytes and then the
end of the source are a fault of their own. -/
def readSeq? : Transfer Source (Option UInt64) := fun s =>
  match s.gather 8 [] with
  | (.complete bs, s) => (.ok (some (UInt64.ofNat (LittleEndian.decode bs))), s)
  | (.ended [], s) => (.ok none, s)
  | (.ended (b :: bs), s) => (.error (.malformed (.truncatedSeq (b :: bs).length)), s)
  | (.failed, s) => (.error (.device .failed), s)

/-- What follows the sequence number of a frame is read. -/
def readFrameBody (seq : UInt64) : Transfer Source Frame := do
  let action ← readAction
  let digest ← readWord64
  return ⟨seq, action, digest⟩

/-- A frame is read, or `none` if there is no byte left. -/
def readFrame? : Transfer Source (Option Frame) := do
  match ← readSeq? with
  | none => return none
  | some seq =>
    let frame ← readFrameBody seq
    return some frame

/-! ### What reading keeps -/

/-- A relation between a source before and after that holds however bytes are gathered from it. -/
structure Respected (R : Source → Source → Prop) : Prop where
  refl : ∀ s, R s s
  trans : ∀ {s₁ s₂ s₃}, R s₁ s₂ → R s₂ s₃ → R s₁ s₃
  gather : ∀ s n, R s (s.gather n []).2

section Keeping

variable {α β : Type} {R : Source → Source → Prop} (hR : Respected R)

include hR

theorem keeps_pure (a : α) : Transfer.Keeps R (pure a : Transfer Source α) :=
  Transfer.Keeps.pure hR.refl a

theorem keeps_fail (fault : Fault) : Transfer.Keeps R (Transfer.fail fault (α := α)) :=
  Transfer.Keeps.fail hR.refl fault

theorem keeps_bind {t : Transfer Source α} {f : α → Transfer Source β}
    (ht : Transfer.Keeps R t) (hf : ∀ a, Transfer.Keeps R (f a)) : Transfer.Keeps R (t >>= f) :=
  Transfer.Keeps.bind (R := R) (fun h h' => hR.trans h h') ht hf

theorem keeps_ofExcept (e : Except Fault α) :
    Transfer.Keeps R (Transfer.ofExcept e : Transfer Source α) := by
  cases e with
  | ok a => exact keeps_pure hR a
  | error fault => exact keeps_fail hR fault

theorem keeps_readExact (n : Nat) : Transfer.Keeps R (readExact n) := by
  intro s
  have h := hR.gather s n
  unfold readExact
  split <;> (rename_i e; rw [e] at h; exact h)

theorem keeps_readByte : Transfer.Keeps R readByte :=
  keeps_bind hR (keeps_readExact hR 1) fun bs => keeps_pure hR (bs.headD 0)

theorem keeps_readWord32 : Transfer.Keeps R readWord32 :=
  keeps_bind hR (keeps_readExact hR 4) fun _ => keeps_pure hR _

theorem keeps_readWord64 : Transfer.Keeps R readWord64 :=
  keeps_bind hR (keeps_readExact hR 8) fun _ => keeps_pure hR _

theorem keeps_readText : Transfer.Keeps R readText :=
  keeps_bind hR (keeps_readWord32 hR) fun _ =>
    keeps_bind hR (keeps_ofExcept hR _) fun _ =>
      keeps_bind hR (keeps_readExact hR _) fun _ => keeps_ofExcept hR _

theorem keeps_readProvenance : Transfer.Keeps R readProvenance :=
  keeps_bind hR (keeps_readText hR) fun _ => keeps_bind hR (keeps_readText hR) fun _ =>
    keeps_bind hR (keeps_readText hR) fun _ => keeps_bind hR (keeps_readText hR) fun _ =>
      keeps_pure hR _

theorem keeps_readHeader : Transfer.Keeps R readHeader := by
  refine keeps_bind hR (keeps_readExact hR 4) fun start => ?_
  split
  · refine keeps_bind hR (keeps_readByte hR) fun version => ?_
    split
    · exact keeps_bind hR (keeps_readProvenance hR) fun _ =>
        keeps_bind hR (keeps_readWord32 hR) fun _ =>
          keeps_bind hR (keeps_readWord64 hR) fun _ => keeps_pure hR _
    · exact keeps_fail hR _
  · exact keeps_fail hR _

theorem keeps_readAction : Transfer.Keeps R readAction := by
  refine keeps_bind hR (keeps_readByte hR) fun tag => ?_
  split
  · exact keeps_bind hR (keeps_readText hR) fun _ => keeps_bind hR (keeps_readByte hR) fun _ =>
      keeps_bind hR (keeps_ofExcept hR _) fun _ => keeps_pure hR _
  · split
    · exact keeps_pure hR _
    · exact keeps_fail hR _

theorem keeps_readSeq? : Transfer.Keeps R readSeq? := by
  intro s
  have h := hR.gather s 8
  unfold readSeq?
  split <;> (rename_i e; rw [e] at h; exact h)

theorem keeps_readFrameBody (seq : UInt64) : Transfer.Keeps R (readFrameBody seq) :=
  keeps_bind hR (keeps_readAction hR) fun _ => keeps_bind hR (keeps_readWord64 hR) fun _ =>
    keeps_pure hR _

theorem keeps_readFrame? : Transfer.Keeps R readFrame? := by
  refine keeps_bind hR (keeps_readSeq? hR) fun seq? => ?_
  cases seq? with
  | none => exact keeps_pure hR none
  | some seq =>
      exact keeps_bind hR (keeps_readFrameBody hR seq) fun frame => keeps_pure hR (some frame)

end Keeping

/-- No reading puts bytes back. -/
theorem respected_length_le :
    Respected fun s s' => s'.pending.length ≤ s.pending.length where
  refl s := Nat.le_refl s.pending.length
  trans h h' := Nat.le_trans h' h
  gather s n := length_gather_le s n []

/-- A sequence number that was read was consumed. -/
theorem length_readSeq?_lt {s s' : Source} {seq : UInt64}
    (h : readSeq? s = (.ok (some seq), s')) : s'.pending.length < s.pending.length := by
  unfold readSeq? at h
  split at h
  · rename_i e
    simp only [Prod.mk.injEq] at h
    obtain ⟨_, rfl⟩ := h
    have := length_gather_of_complete e
    omega
  all_goals simp at h

/-- A frame that was read was consumed. -/
theorem length_readFrame?_lt {s s' : Source} {frame : Frame}
    (h : readFrame? s = (.ok (some frame), s')) : s'.pending.length < s.pending.length := by
  unfold readFrame? at h
  cases e : readSeq? s with
  | mk r s₁ =>
      cases r with
      | error fault =>
          rw [Transfer.bind_of_error e] at h
          simp at h
      | ok seq? =>
          rw [Transfer.bind_of_ok e] at h
          cases seq? with
          | none => simp at h
          | some seq =>
              have hs := length_readSeq?_lt e
              have hf := keeps_bind respected_length_le
                (keeps_readFrameBody respected_length_le seq)
                (fun frame => keeps_pure respected_length_le (some frame)) s₁
              simp only at h
              rw [h] at hf
              simp only at hf
              omega

end Source

end TorusRobot.Recording
