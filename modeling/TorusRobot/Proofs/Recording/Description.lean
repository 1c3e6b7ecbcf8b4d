/-
**Worlds can be told by their descriptions.**

In the description of a world fields of any length follow one another without separators.  All the
same every part of it is self-delimiting: a position has eight bytes, a robot and a report begin
with a byte that says whether there is one, and walls and report are preceded by their number or
length.  These numbers have four bytes, which is enough for every world that can come about.  So a
description stands for one world only, up to the stamp, and where two different worlds have the same
digest, it is the hash that gives the same for different bytes.

Main definitions:

* `TorusRobot.World.EqualUpToStamp` — worlds that differ at most in what is there for display.

Main results:

* `TorusRobot.Position.flatMap_bytes_append_inj`, `TorusRobot.Robot.bytes?_append_inj`,
  `TorusRobot.reportBytes?_append_inj` — the parts of a description are self-delimiting;
* `TorusRobot.World.Sound.decode_length_report` — four bytes tell the length of a report;
* `TorusRobot.World.Sound.description_append_inj` — so are descriptions;
* `TorusRobot.World.descriptions_are_unambiguous` — **digests are hashes of unambiguous
  descriptions**.
-/
import TorusRobot.Proofs.Recording.Mixing
import TorusRobot.Proofs.World.Reachable

set_option relaxedAutoImplicit false
set_option autoImplicit false

namespace TorusRobot

open LittleEndian

variable {xs ys : List UInt8}

/-! ### Self-delimiting parts -/

/-- Numbers that their bytes tell are self-delimiting. -/
theorem LittleEndian.encode_append_inj {width m n : Nat} (hm : decode (encode width m) = m)
    (hn : decode (encode width n) = n) (h : encode width m ++ xs = encode width n ++ ys) :
    m = n ∧ xs = ys := by
  obtain ⟨hbytes, hxy⟩ := List.append_inj h (by rw [length_encode, length_encode])
  refine ⟨?_, hxy⟩
  calc
    m = decode (encode width m) := hm.symm
    _ = decode (encode width n) := by rw [hbytes]
    _ = n := hn

theorem LittleEndian.word32_append_inj {m n : UInt32} (h : word32 m ++ xs = word32 n ++ ys) :
    m = n ∧ xs = ys := by
  obtain ⟨hmn, hxy⟩ := encode_append_inj (decode_word32 m) (decode_word32 n) h
  exact ⟨UInt32.toNat_inj.1 hmn, hxy⟩

theorem Position.bytes_append_inj {p q : Position} (h : p.bytes ++ xs = q.bytes ++ ys) :
    p = q ∧ xs = ys := by
  obtain ⟨row, col⟩ := p
  obtain ⟨row', col'⟩ := q
  simp only [bytes, List.append_assoc] at h
  obtain ⟨rfl, hrest⟩ := word32_append_inj h
  obtain ⟨rfl, hxy⟩ := word32_append_inj hrest
  exact ⟨rfl, hxy⟩

/-- As many positions as others are told from them. -/
theorem Position.flatMap_bytes_append_inj {ps qs : List Position} (hlength : ps.length = qs.length)
    (h : ps.flatMap bytes ++ xs = qs.flatMap bytes ++ ys) : ps = qs ∧ xs = ys := by
  induction ps generalizing qs with
  | nil =>
      cases qs with
      | nil => exact ⟨rfl, h⟩
      | cons q qs => cases hlength
  | cons p ps ih =>
      cases qs with
      | nil => cases hlength
      | cons q qs =>
          rw [List.flatMap_cons, List.flatMap_cons, List.append_assoc, List.append_assoc] at h
          obtain ⟨rfl, hrest⟩ := bytes_append_inj h
          obtain ⟨rfl, hxy⟩ := ih (Nat.succ.inj hlength) hrest
          exact ⟨rfl, hxy⟩

theorem Facing.ofNat_index_injective {f g : Facing}
    (h : UInt8.ofNat f.index.val = UInt8.ofNat g.index.val) : f = g := by
  revert h
  cases f <;> cases g <;> decide

theorem Robot.bytes?_append_inj {r s : Option Robot} (h : bytes? r ++ xs = bytes? s ++ ys) :
    r = s ∧ xs = ys := by
  cases r with
  | none =>
      cases s with
      | none => exact ⟨rfl, (List.cons.inj h).2⟩
      | some s => cases (List.cons.inj h).1
  | some r =>
      cases s with
      | none => cases (List.cons.inj h).1
      | some s =>
          obtain ⟨p, f⟩ := r
          obtain ⟨q, g⟩ := s
          simp only [bytes?, List.cons_append, List.append_assoc, List.cons.injEq, true_and] at h
          obtain ⟨rfl, hrest⟩ := Position.bytes_append_inj h
          obtain ⟨hfacing, hxy⟩ := List.cons.inj hrest
          obtain rfl := Facing.ofNat_index_injective hfacing
          exact ⟨rfl, hxy⟩

theorem Text.Utf8.encode_injective {s t : String} (h : encode s = encode t) : s = t := by
  have hdecoded := congrArg decode h
  rw [decode_encode, decode_encode] at hdecoded
  exact Except.ok.inj hdecoded

/-- Four bytes tell the length of a report, if there is one. -/
def ReportFits (report : Option String) : Prop :=
  ∀ text, report = some text →
    decode (encode 4 (Text.Utf8.encode text).length) = (Text.Utf8.encode text).length

theorem reportBytes?_append_inj {a b : Option String} (ha : ReportFits a) (hb : ReportFits b)
    (h : reportBytes? a ++ xs = reportBytes? b ++ ys) : a = b ∧ xs = ys := by
  cases a with
  | none =>
      cases b with
      | none => exact ⟨rfl, (List.cons.inj h).2⟩
      | some t => cases (List.cons.inj h).1
  | some s =>
      cases b with
      | none => cases (List.cons.inj h).1
      | some t =>
          simp only [reportBytes?, List.cons_append, List.append_assoc, List.cons.injEq,
            true_and] at h
          obtain ⟨hlength, h⟩ := encode_append_inj (ha s rfl) (hb t rfl) h
          obtain ⟨htext, hxy⟩ := List.append_inj h hlength
          obtain rfl := Text.Utf8.encode_injective htext
          exact ⟨rfl, hxy⟩

/-! ### The length of a report -/

/-- A character has at most four bytes. -/
theorem Text.utf8ByteSize_ofList_le (cs : List Char) :
    (String.ofList cs).utf8ByteSize ≤ 4 * cs.length := by
  induction cs with
  | nil => decide
  | cons c cs ih =>
      have hc := c.utf8Size_le_four
      rw [String.ofList_cons, String.utf8ByteSize_append, String.utf8ByteSize_singleton,
        List.length_cons]
      omega

/-- A number below a power of ten has no more digits than that power has zeros. -/
theorem Text.Decimal.length_digits_le {n k : Nat} (h : n < 10 ^ (k + 1)) :
    (digits n).length ≤ k + 1 := by
  induction k generalizing n with
  | zero =>
      have hn : n < 10 := by simpa using h
      rw [digits, if_pos hn, List.length_singleton]
  | succ k ih =>
      rw [digits]
      split
      · simp
      · have hdiv : n / 10 < 10 ^ (k + 1) := by
          rw [Nat.pow_succ] at h
          omega
        have hrest := ih hdiv
        rw [List.length_append, List.length_singleton]
        omega

theorem Text.Decimal.utf8ByteSize_text_word32_le (n : UInt32) :
    (text n.toNat).utf8ByteSize ≤ 40 := by
  have hn := n.toNat_lt
  have hdigits := length_digits_le (n := n.toNat) (k := 9) (by omega)
  have hbytes := utf8ByteSize_ofList_le (digits n.toNat)
  rw [text]
  omega

/-- The report of a robot is a short text. -/
theorem Robot.utf8ByteSize_text_le (r : Robot) : r.text.utf8ByteSize ≤ 87 := by
  have hrow := Text.Decimal.utf8ByteSize_text_word32_le r.position.row
  have hcol := Text.Decimal.utf8ByteSize_text_word32_le r.position.col
  have hname : r.facing.name.utf8ByteSize ≤ 5 := by
    cases r.facing <;> decide
  have hcomma : ",".utf8ByteSize = 1 := by decide
  simp only [text, Position.text, String.utf8ByteSize_append, hcomma]
  omega

namespace World

variable {v w : World}

theorem Sound.decode_length_report (hw : Sound w) : ReportFits w.lastReport := by
  intro text htext
  obtain ⟨r, -, rfl⟩ := hw.report_eq text htext
  have hsize := r.utf8ByteSize_text_le
  have hcapacity : capacity 4 = 4294967296 := rfl
  apply decode_encode
  rw [Text.Utf8.length_encode]
  omega

/-! ### Worlds -/

/-- Worlds that differ at most in what the last command has left behind for display. -/
structure EqualUpToStamp (v w : World) : Prop where
  side : v.side = w.side
  robot : v.robot = w.robot
  /-- The same walls, placed in the same order. -/
  walls : v.walls = w.walls
  lastReport : v.lastReport = w.lastReport

theorem EqualUpToStamp.description_eq (h : EqualUpToStamp v w) : v.description = w.description := by
  simp only [description, h.side, h.robot, h.walls, h.lastReport]

/-- **Descriptions are self-delimiting**: none of them is the beginning of another. -/
theorem Sound.description_append_inj (hv : Sound v) (hw : Sound w)
    (h : v.description ++ xs = w.description ++ ys) : EqualUpToStamp v w ∧ xs = ys := by
  simp only [description, wallBytes, List.append_assoc] at h
  obtain ⟨hside, h⟩ := word32_append_inj h
  obtain ⟨hrobot, h⟩ := Robot.bytes?_append_inj h
  obtain ⟨hnumber, h⟩ := encode_append_inj hv.decode_length_walls hw.decode_length_walls h
  obtain ⟨hwalls, h⟩ := Position.flatMap_bytes_append_inj hnumber h
  obtain ⟨hreport, hxy⟩ := reportBytes?_append_inj hv.decode_length_report hw.decode_length_report h
  exact ⟨⟨hside, hrobot, hwalls, hreport⟩, hxy⟩

theorem Sound.description_eq_iff (hv : Sound v) (hw : Sound w) :
    v.description = w.description ↔ EqualUpToStamp v w := by
  constructor
  · intro h
    have happend : v.description ++ [] = w.description ++ [] := by rw [h]
    exact (hv.description_append_inj hw happend).1
  · exact EqualUpToStamp.description_eq

/-- **Digests are hashes of unambiguous descriptions.**  The digest of a world is the 64-bit FNV-1a
hash of its description: from the offset on, each byte is mixed in by exclusive or, and the result
is multiplied by the prime modulo `2 ^ 64`.  Worlds that are equal up to the stamp have the same
description and so the same digest.  Of a reachable world four bytes tell the number of the walls
and the length of the report.  Reachable worlds on whatever grids have the same description only if
they are equal up to the stamp; so if others have the same digest, the hash has given the same for
different bytes. -/
theorem descriptions_are_unambiguous :
    (∀ w : World, w.digest.toNat =
      w.description.foldl (fun n b => (n ^^^ b.toNat) * 1099511628211 % 2 ^ 64)
        14695981039346656037) ∧
    (∀ v w : World, EqualUpToStamp v w → v.description = w.description ∧ v.digest = w.digest) ∧
    (∀ (side : UInt32) (w : World), Reachable side w →
      decode (encode 4 w.walls.length) = w.walls.length ∧ ReportFits w.lastReport) ∧
    ∀ (side side' : UInt32) (v w : World), Reachable side v → Reachable side' w →
      (v.description = w.description ↔ EqualUpToStamp v w) ∧
      (v.digest = w.digest → ¬EqualUpToStamp v w →
        v.description ≠ w.description ∧ fnv1a v.description = fnv1a w.description) := by
  refine ⟨fun w => toNat_fnv1a w.description, ?_, ?_, ?_⟩
  · intro v w h
    have hdescription := h.description_eq
    exact ⟨hdescription, by rw [digest, digest, hdescription]⟩
  · intro side w hw
    obtain ⟨-, hsound⟩ := hw.sound
    exact ⟨hsound.decode_length_walls, hsound.decode_length_report⟩
  · intro side side' v w hv hw
    obtain ⟨-, hv⟩ := hv.sound
    obtain ⟨-, hw⟩ := hw.sound
    have hiff := hv.description_eq_iff hw
    exact ⟨hiff, fun hdigest hne => ⟨fun h => hne (hiff.1 h), hdigest⟩⟩

/-- A wall stands where the robot of `TorusRobot.World.roundTheEdge` does. -/
def walledCorner : World := { side := 5, walls := [⟨1, 1⟩] }

theorem reachable_walledCorner : Reachable 5 walledCorner := by
  have hplaced : initial.after? (.placeWall ⟨1, 1⟩) = some walledCorner := by decide
  exact .after .initial hplaced

/-- The hypotheses of `TorusRobot.World.descriptions_are_unambiguous` are met by a robot and a wall
on the same cell of equal grids, and by worlds with different stamps. -/
theorem descriptions_are_unambiguous_corner :
    (roundTheEdge.description ≠ walledCorner.description ∧
      (roundTheEdge.digest = walledCorner.digest →
        fnv1a roundTheEdge.description = fnv1a walledCorner.description)) ∧
    (walledCorner.stamped "REPORT" .notPlaced "").digest = walledCorner.digest ∧
    decode (encode 4 walledCorner.walls.length) = 1 := by
  obtain ⟨-, hsame, hfits, hpairs⟩ := descriptions_are_unambiguous
  obtain ⟨hiff, hcollision⟩ := hpairs 5 5 _ _ reachable_roundTheEdge reachable_walledCorner
  have hne : ¬EqualUpToStamp roundTheEdge walledCorner := fun h => nomatch h.robot
  refine ⟨⟨fun h => hne (hiff.1 h), fun h => (hcollision h hne).2⟩, ?_, ?_⟩
  · exact (hsame (walledCorner.stamped "REPORT" .notPlaced "") walledCorner ⟨rfl, rfl, rfl, rfl⟩).2
  · exact (hfits 5 _ reachable_walledCorner).1

end World

end TorusRobot
