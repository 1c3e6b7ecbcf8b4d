/-
**Settings that do not fit a recording.**

A session verifies a recording only if it goes by the same rules: its side is the recorded one, and
so is the digest of what its settings can change in a world.  Where the sides are the same, the
digests are those of bytes that differ in the last one at most, which stands for the treatment of
upper and lower case; so they differ where this does.  What a session refuses it does not touch, and
a recording that it does not refuse is replayed.

Main definitions:

* `TorusRobot.Recording.Header.Tells` — a header holds what is recorded of settings;
* `TorusRobot.Settings.SameRules` — settings that agree in what can change a world.

Main results:

* `TorusRobot.Settings.digest_eq_iff` — when the digests of settings with the same side agree;
* `TorusRobot.Session.accepts_iff` — which recordings a session does not refuse;
* `TorusRobot.Session.result_compare_ne_mismatch` — replaying does not find other settings;
* `TorusRobot.Session.mismatch_iff_other_rules` — **a recording is refused exactly where the rules
  are others**.
-/
import TorusRobot.Proofs.Recording.Faults
import TorusRobot.Proofs.Recording.Mixing
import TorusRobot.Proofs.Replay.FirstDivergence
import TorusRobot.Proofs.Replay.Recorded

set_option relaxedAutoImplicit false
set_option autoImplicit false

namespace TorusRobot

open Recording Replay

/-! ### Rules -/

theorem CasePolicy.tag_injective {p q : CasePolicy} (h : p.tag = q.tag) : p = q := by
  cases p <;> cases q <;> first | rfl | cases h

namespace Settings

/-- Settings agree in what can change a world: the side and the treatment of lines. -/
structure SameRules (A B : Settings) : Prop where
  side : A.side = B.side
  casePolicy : A.casePolicy = B.casePolicy

theorem not_sameRules_iff {A B : Settings} :
    ¬A.SameRules B ↔ A.side ≠ B.side ∨ A.casePolicy ≠ B.casePolicy := by
  constructor
  · intro h
    by_contra hor
    obtain ⟨hside, hcase⟩ := not_or.1 hor
    exact h ⟨not_not.1 hside, not_not.1 hcase⟩
  · rintro (hside | hcase) h
    · exact hside h.side
    · exact hcase h.casePolicy

/-- The last byte that is hashed of settings is that of the treatment of lines. -/
theorem digest_eq_fnvStep (A : Settings) :
    A.digest = fnvStep (fnv1a (LittleEndian.word32 A.side)) A.casePolicy.tag :=
  fnv1a_append_singleton _ _

/-- Settings with the same side have the same digest only if they treat lines in the same way. -/
theorem digest_eq_iff {A B : Settings} (hside : A.side = B.side) :
    A.digest = B.digest ↔ A.casePolicy = B.casePolicy := by
  refine ⟨fun h => ?_, digest_congr hside⟩
  rw [digest_eq_fnvStep, digest_eq_fnvStep, hside] at h
  exact CasePolicy.tag_injective (fnvStep_right_injective h)

end Settings

/-! ### Headers -/

/-- A header holds the side and the digest of settings, whatever else it holds. -/
structure Recording.Header.Tells (h : Header) (A : Settings) : Prop where
  side : h.side = A.side
  settingsDigest : h.settingsDigest = A.digest

/-- The header of settings and any bytes behind it are a recording that can be opened. -/
theorem Recording.Reader.exists_tells {A : Settings} {p : Provenance} {s : Source}
    {rest : List UInt8} (hp : (Header.ofSettings p A).Fits) (hs : s.Lasts)
    (hpending : s.pending = (Header.ofSettings p A).bytes ++ rest) :
    ∃ r, Reader.ofSource s = .ok r ∧ r.header.Tells A ∧ r.source.pending = rest := by
  obtain ⟨r, hopen, hr, -, hrest⟩ := Reader.ofSource_of_pending hs hp hpending
  exact ⟨r, hopen, hr ▸ ⟨rfl, rfl⟩, hrest⟩

namespace Session

variable {A : Settings} {b : Session} {r : Reader}

/-- A session does not refuse a recording that was made under the same rules, and no other one. -/
theorem accepts_iff {h : Header} (hA : h.Tells A) :
    b.accepts h = true ↔ A.SameRules b.settings := by
  rw [accepts, hA.settingsDigest, hA.side, Bool.and_eq_true, decide_eq_true_iff, decide_eq_true_iff]
  constructor
  · rintro ⟨hdigest, hside⟩
    exact ⟨hside, (Settings.digest_eq_iff hside).1 hdigest⟩
  · rintro ⟨hside, hcase⟩
    exact ⟨Settings.digest_congr hside hcase, hside⟩

/-! ### Replaying -/

/-- Replaying does not find other settings: doing again never fails, and reading the frames fails in
other ways. -/
theorem result_compare_ne_mismatch (clock : Nat → Nat) (s : Session × Nat)
    (recorded current : UInt64) :
    (compare (redoAt clock) r s).result ≠ .error (.settingsMismatch recorded current) := by
  intro hresult
  rcases compare_cases (redoAt clock) r s with ⟨before, f, behind, -, h⟩ | h
  · -- it has stopped at a frame, and the only fault there would be one of doing it again
    have hstops := h.result
    rw [hresult] at hstops
    generalize hredo : (redoAt clock (through (redoAt clock) s before) f.action).1 = redone
      at hstops
    cases hstops with
    | fault => cases hredo
  · -- it has come to the end, and a fault is that of reading
    have hending := h.result
    rw [hresult] at hending
    cases hread : r.readAll.2.1 with
    | ok _ =>
        rw [hread] at hending
        cases hending
    | error fault =>
        rw [hread] at hending
        obtain rfl := Except.error.inj hending
        cases Reader.ofFrame_of_readAll hread

/-- **A recording is refused exactly where the rules are others.**  Whatever bytes stand behind a
header, the recording can be opened.  Where the header tells of settings `A`, a session under
settings `B` finds other settings if and only if the sides or the treatments of lines differ,
whatever else the settings say and whatever state the session is in.  It then tells both digests,
has read no frame, and is as it was.  Otherwise the frames are done again in it, up to the first one
that comes out otherwise or to the end. -/
theorem mismatch_iff_other_rules (A B : Settings) :
    (∀ (p : Provenance) (s : Source) (rest : List UInt8), (Header.ofSettings p A).Fits → s.Lasts →
        s.pending = (Header.ofSettings p A).bytes ++ rest →
        ∃ r, Reader.ofSource s = .ok r ∧ r.header.Tells A ∧ r.source.pending = rest) ∧
      ∀ (r : Reader) (b : Session) (clock : Nat → Nat), r.header.Tells A → b.settings = B →
        ((∃ recorded current,
            (b.verify r clock).result = .error (.settingsMismatch recorded current)) ↔
          A.side ≠ B.side ∨ A.casePolicy ≠ B.casePolicy) ∧
        (A.side ≠ B.side ∨ A.casePolicy ≠ B.casePolicy →
          b.verify r clock = ⟨.error (.settingsMismatch A.digest B.digest), r, b⟩) ∧
        (A.side = B.side → A.casePolicy = B.casePolicy →
          ∃ c, b.verify r clock = ⟨c.result, c.reader, c.state.1⟩ ∧
            ((∃ before f behind, r.readAll.1 = before ++ f :: behind ∧
                StopsAt (redoAt clock) r (b, 0) before f c) ∨
              GoesThrough (redoAt clock) r (b, 0) c)) := by
  refine ⟨fun p s rest => Reader.exists_tells, ?_⟩
  rintro r b clock hA rfl
  have hrefused : A.side ≠ b.settings.side ∨ A.casePolicy ≠ b.settings.casePolicy →
      b.verify r clock =
        ⟨.error (.settingsMismatch A.digest b.settings.digest), r, b⟩ := by
    intro hother
    have haccepts : b.accepts r.header = false := by
      rw [← Bool.not_eq_true, accepts_iff hA]
      exact Settings.not_sameRules_iff.2 hother
    rw [verify_of_mismatch clock haccepts, hA.settingsDigest]
  refine ⟨⟨?_, ?_⟩, hrefused, ?_⟩
  · rintro ⟨recorded, current, hresult⟩
    refine Settings.not_sameRules_iff.1 fun hsame => ?_
    rw [verify_eq_compare clock ((accepts_iff hA).2 hsame)] at hresult
    exact result_compare_ne_mismatch clock (b, 0) recorded current hresult
  · intro hother
    exact ⟨_, _, by rw [hrefused hother]⟩
  · intro hside hcase
    refine ⟨_, verify_eq_compare clock ((accepts_iff hA).2 ⟨hside, hcase⟩), ?_⟩
    exact compare_cases (redoAt clock) r (b, 0)

/-- Settings under which hardly anything is displayed, and lines are read as they are. -/
def sparseExact : Settings := { sparse with casePolicy := .exact }

/-- The hypotheses of `TorusRobot.Session.mismatch_iff_other_rules` are met by three bytes that are
no frame behind a header, and by sessions in which something was done before: one that reads lines
as they are is told of its settings, one that only displays less is not. -/
theorem mismatch_iff_other_rules_garbled :
    ∃ r, Reader.ofSource
        { pending := (Header.ofSettings ⟨"", "", "", ""⟩ {}).bytes ++ [9, 9, 9] } = .ok r ∧
      ((fresh sparseExact).run interrupted).verify r id =
        ⟨.error (.settingsMismatch (Settings.digest {}) sparseExact.digest), r,
          (fresh sparseExact).run interrupted⟩ ∧
      ∀ recorded current, (((fresh sparse).run interrupted).verify r id).result ≠
        .error (.settingsMismatch recorded current) := by
  have hp : (Header.ofSettings ⟨"", "", "", ""⟩ {}).Fits :=
    Header.fits_iff.2 ⟨by decide, by decide, by decide, by decide⟩
  obtain ⟨hopens, hexact⟩ := mismatch_iff_other_rules {} sparseExact
  obtain ⟨-, hsparse⟩ := mismatch_iff_other_rules {} sparse
  obtain ⟨r, hopen, hA, -⟩ := hopens _ { pending := _ } [9, 9, 9] hp rfl rfl
  obtain ⟨-, hrefused, -⟩ := hexact r ((fresh sparseExact).run interrupted) id hA (settings_run _ _)
  obtain ⟨hiff, -, -⟩ := hsparse r ((fresh sparse).run interrupted) id hA (settings_run _ _)
  refine ⟨r, hopen, hrefused (.inr (by decide)), fun recorded current hresult => ?_⟩
  rcases hiff.1 ⟨recorded, current, hresult⟩ with hside | hcase
  · exact hside rfl
  · exact hcase rfl

end Session

end TorusRobot
