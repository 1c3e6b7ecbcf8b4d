/-
**Upper case twice.**

No code point of an upper case has another upper case: what the runs map to lies in no run, or falls
between the code points of a run in which cases alternate, and what the expansions are made of is
its own upper case.  So a text in upper case stays as it is when it is put in upper case once more.
The blanks of a text stay where they are, and so it is all one whether a text is trimmed before it
is put in upper case or afterwards.

Main definitions:

* `TorusRobot.Text.Uppercase.Run.misses` — whether what a run maps to is passed over by another.

Main results:

* `TorusRobot.Text.Uppercase.codes_of_mem_codes` — the upper case of an upper case;
* `TorusRobot.Text.uppercase_uppercase` — **upper-casing twice is upper-casing once**;
* `TorusRobot.Text.filter_isBlank_uppercase` — **no blank comes or goes**;
* `TorusRobot.Text.trim_uppercase` — trimming before and afterwards.
-/
import TorusRobot.Proofs.Text.Blank
import TorusRobot.Proofs.Text.Cutting

set_option relaxedAutoImplicit false
set_option autoImplicit false

namespace TorusRobot.Text

namespace Uppercase

/-! ### One code point -/

/-- Whether nothing that a run maps to lies between two code points. -/
def Run.passesOver (r : Run) (first last : Nat) : Bool :=
  Nat.blt (r.target + (r.last - r.first)) first || Nat.blt last r.target

/-- Whether no code point that the run `r` maps to is one of the run `s`: they are apart from each
other, or the former fall between the latter. -/
def Run.misses (r s : Run) : Bool :=
  r.passesOver s.first s.last ||
    (s.step == 2 && (r.step == 2 || r.first == r.last) && (r.target + s.first) % 2 == 1)

theorem not_between_of_passesOver {r : Run} {n first last : Nat}
    (h : r.passesOver first last = true) (hn : n ≤ r.last) (hf : first ≤ r.shift n)
    (hl : r.shift n ≤ last) : False := by
  have hto : r.shift n ≤ r.target + (r.last - r.first) :=
    Nat.add_le_add_left (Nat.sub_le_sub_right hn _) _
  have hfrom : r.target ≤ r.shift n := Nat.le_add_right _ _
  rw [Run.passesOver, Bool.or_eq_true, Nat.blt_eq, Nat.blt_eq] at h
  omega

theorem covers_shift_of_misses {r s : Run} {n : Nat} (h : r.misses s = true)
    (hn : r.covers n = true) : s.covers (r.shift n) = false := by
  simp only [Run.misses, Bool.or_eq_true, Bool.and_eq_true, beq_iff_eq] at h
  simp only [Run.covers, Bool.and_eq_true, decide_eq_true_eq, beq_iff_eq] at hn
  obtain ⟨⟨hfirst, hlast⟩, hstep⟩ := hn
  rw [Bool.eq_false_iff]
  intro hs
  simp only [Run.covers, Bool.and_eq_true, decide_eq_true_eq, beq_iff_eq] at hs
  obtain ⟨⟨hsfirst, hslast⟩, hsstep⟩ := hs
  rcases h with h | ⟨⟨htwo, hr⟩, hodd⟩
  · exact not_between_of_passesOver h hlast hsfirst hslast
  · -- every other code point is one of `s`, and `r` maps to those between
    rw [htwo] at hsstep
    rw [Run.shift] at hsfirst hsstep
    have heven : (n - r.first) % 2 = 0 := by
      rcases hr with hr | hr
      · rwa [hr] at hstep
      · rw [show n - r.first = 0 by omega]
    omega

/-- What a run maps to is in none of the runs. -/
theorem misses_runs : (runs.all fun r => runs.all r.misses) = true := by
  decide +kernel

/-- What a run maps to has no expansion. -/
theorem passesOver_expansions :
    (runs.all fun r => expansions.all fun e => r.passesOver e.1 e.1) = true := by
  decide +kernel

/-- The parts of an expansion are their own upper case. -/
theorem codes_of_mem_expansions : ∀ e ∈ expansions, ∀ n ∈ e.2, codes n = [n] := by
  decide +kernel

/-- A code point that neither table holds is its own upper case. -/
theorem codes_of_forall {n : Nat} (hr : ∀ r ∈ runs, r.covers n = false)
    (he : ∀ e ∈ expansions, e.1 ≠ n) : codes n = [n] := by
  have hrun : runOf? n = none := by
    rw [runOf?_eq_find?, List.find?_eq_none]
    exact fun r hmem => Bool.eq_false_iff.1 (hr r hmem)
  have hexpansion : expansionOf? n = none := by
    rw [expansionOf?_eq_find?, List.find?_eq_none]
    exact fun e hmem heq => he e hmem (beq_iff_eq.1 heq)
  rw [codes, hrun, hexpansion]

theorem codes_shift {r : Run} {n : Nat} (hr : r ∈ runs) (hn : r.covers n = true) :
    codes (r.shift n) = [r.shift n] := by
  refine codes_of_forall (fun s hs => ?_) (fun e he heq => ?_)
  · exact covers_shift_of_misses (List.all_eq_true.1 (List.all_eq_true.1 misses_runs r hr) s hs) hn
  · have hover := List.all_eq_true.1 (List.all_eq_true.1 passesOver_expansions r hr) e he
    simp only [Run.covers, Bool.and_eq_true, decide_eq_true_eq] at hn
    exact not_between_of_passesOver hover hn.1.2 (Nat.le_of_eq heq) (Nat.le_of_eq heq.symm)

/-- **The code points of an upper case are their own upper case.** -/
theorem codes_of_mem_codes {n m : Nat} (h : m ∈ codes n) : codes m = [m] := by
  cases hr : runOf? n with
  | some r =>
      rw [codes, hr, List.mem_singleton] at h
      rw [runOf?_eq_find?] at hr
      rw [h]
      have hcovers : r.covers n = true := by simpa using List.find?_some hr
      exact codes_shift (List.mem_of_find?_eq_some hr) hcovers
  | none =>
      cases he : expansionOf? n with
      | some e =>
          rw [codes, hr, he] at h
          exact codes_of_mem_expansions e (mem_of_expansionOf? he).1 m h
      | none =>
          have hself : codes n = [n] := by rw [codes, hr, he]
          rw [hself, List.mem_singleton] at h
          rw [h, hself]

/-! ### One character -/

/-- A character is its own upper case if its code point is, and so is the one that stands for an
invalid code point. -/
theorem ofChar_ofNat {n : Nat} (h : codes n = [n]) : ofChar (Char.ofNat n) = [Char.ofNat n] := by
  by_cases hn : n.isValidChar
  · have htoNat : (Char.ofNat n).toNat = n := by
      rw [Char.ofNat, dif_pos hn]
      rfl
    rw [ofChar, htoNat, h, List.map_singleton]
  · rw [Char.ofNat, dif_neg hn]
    rfl

theorem ofChar_of_mem_ofChar {c d : Char} (h : d ∈ ofChar c) : ofChar d = [d] := by
  obtain ⟨n, hn, rfl⟩ := List.mem_map.1 h
  exact ofChar_ofNat (codes_of_mem_codes hn)

theorem ofChar_of_isBlank {c : Char} (h : isBlank c = true) : ofChar c = [c] := by
  rw [ofChar, codes_of_isBlankCode h, List.map_singleton, Char.ofNat_toNat]

theorem isBlank_of_mem_ofChar {c d : Char} (h : isBlank c = false) (hd : d ∈ ofChar c) :
    isBlank d = false := by
  obtain ⟨n, hn, rfl⟩ := List.mem_map.1 hd
  exact isBlank_ofNat ((isBlankCode_of_mem_codes h).2 n hn)

theorem ofChar_ne_nil (c : Char) : ofChar c ≠ [] := by
  cases h : isBlank c with
  | true => simp [ofChar_of_isBlank h]
  | false =>
      intro hnil
      exact (isBlankCode_of_mem_codes h).1 (List.map_eq_nil_iff.1 hnil)

end Uppercase

open Uppercase

/-! ### A text -/

theorem uppercase_of_forall {s : List Char} (h : ∀ c ∈ s, ofChar c = [c]) : uppercase s = s := by
  induction s with
  | nil => rfl
  | cons c s ih =>
      obtain ⟨hc, hs⟩ := List.forall_mem_cons.1 h
      rw [uppercase_cons, hc, ih hs, List.singleton_append]

/-- **Upper-casing twice is upper-casing once.** -/
theorem uppercase_uppercase (s : List Char) : uppercase (uppercase s) = uppercase s := by
  refine uppercase_of_forall fun d hd => ?_
  obtain ⟨c, -, hc⟩ := List.mem_flatMap.1 hd
  exact ofChar_of_mem_ofChar hc

theorem filter_isBlank_ofChar (c : Char) : (ofChar c).filter isBlank = [c].filter isBlank := by
  cases h : isBlank c with
  | true => rw [ofChar_of_isBlank h]
  | false =>
      rw [List.filter_eq_nil_iff.2 fun d hd => Bool.eq_false_iff.1 (isBlank_of_mem_ofChar h hd),
        List.filter_cons_of_neg (Bool.eq_false_iff.1 h), List.filter_nil]

/-- **No blank comes or goes** when a text is put in upper case. -/
theorem filter_isBlank_uppercase (s : List Char) :
    (uppercase s).filter isBlank = s.filter isBlank := by
  induction s with
  | nil => rfl
  | cons c s ih =>
      rw [uppercase_cons, List.filter_append, filter_isBlank_ofChar, ih, ← List.filter_append,
        List.singleton_append]

theorem uppercase_ne_nil {s : List Char} (h : s ≠ []) : uppercase s ≠ [] := by
  cases s with
  | nil => exact absurd rfl h
  | cons c s => simp [ofChar_ne_nil]

/-! ### Trimming -/

theorem trimStart_uppercase (s : List Char) :
    trimStart (uppercase s) = uppercase (trimStart s) := by
  induction s with
  | nil => rfl
  | cons c s ih =>
      rw [uppercase_cons]
      cases hc : isBlank c with
      | true =>
          rw [ofChar_of_isBlank hc, List.singleton_append, trimStart_of_isBlank hc,
            trimStart_of_isBlank hc, ih]
      | false =>
          obtain ⟨d, ds, hd⟩ := List.exists_cons_of_ne_nil (ofChar_ne_nil c)
          have hblank : isBlank d = false :=
            isBlank_of_mem_ofChar hc (hd ▸ List.mem_cons_self)
          rw [trimStart_of_not_isBlank hc, uppercase_cons, hd, List.cons_append,
            trimStart_of_not_isBlank hblank]

theorem trimEnd_ofChar (c : Char) : trimEnd (ofChar c) = uppercase (trimEnd [c]) := by
  cases h : isBlank c with
  | true => simp [ofChar_of_isBlank h, trimEnd_singleton, h]
  | false =>
      rw [trimEnd_of_forall fun d hd => isBlank_of_mem_ofChar h hd, trimEnd_singleton]
      simp [h]

theorem trimEnd_uppercase (s : List Char) : trimEnd (uppercase s) = uppercase (trimEnd s) := by
  induction s with
  | nil => rfl
  | cons c s ih =>
      rw [uppercase_cons, trimEnd_cons_eq]
      split
      · rename_i hnil
        rw [hnil, uppercase_nil] at ih
        rw [trimEnd_append_of_blank ih, trimEnd_ofChar]
      · rename_i hne
        rw [trimEnd_append (ih ▸ uppercase_ne_nil hne), ih, uppercase_cons]

/-- **It is all one whether a text is trimmed before it is put in upper case or afterwards.** -/
theorem trim_uppercase (s : List Char) : trim (uppercase s) = uppercase (trim s) := by
  rw [trim, trim, trimStart_uppercase, trimEnd_uppercase]

end TorusRobot.Text
