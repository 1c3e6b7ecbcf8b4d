/-
**Upper case and blanks.**

A blank is its own upper case, and what is not blank has an upper case that holds no blank.  So a
line reads as blank before its letters are put in upper case exactly if it does so afterwards, and
whether a line has an outcome does not depend on how it is treated.  A text of code points before
that of `a` is its own upper case, so what it is read as does not depend on that either.

Main definitions:

* `TorusRobot.Text.isCaseless` — a text of code points before that of `a`.

Main results:

* `TorusRobot.Text.Uppercase.codes_of_isBlankCode`,
  `TorusRobot.Text.Uppercase.isBlankCode_of_mem_codes` — the upper case of a code point;
* `TorusRobot.Text.allBlank_uppercase` — exactly the blank texts have a blank upper case;
* `TorusRobot.Text.uppercase_of_isCaseless` — a text that is its own upper case;
* `TorusRobot.Session.submit_eq_none_iff_allBlank` — exactly the blank lines have no outcome.
-/
import TorusRobot.Session.Basic

set_option relaxedAutoImplicit false
set_option autoImplicit false

namespace TorusRobot.Text

/-! ### Code points -/

/-- Whether a code point has the property White_Space. -/
def isBlankCode (n : Nat) : Bool := blankRanges.any fun b => b.1 ≤ n && n ≤ b.2

theorem isBlank_eq (c : Char) : isBlank c = isBlankCode c.toNat := rfl

theorem isBlankCode_eq_true_iff {n : Nat} :
    isBlankCode n = true ↔ ∃ b ∈ blankRanges, b.1 ≤ n ∧ n ≤ b.2 := by
  simp [isBlankCode]

/-- The character of a code point is blank if the code point is, and no character stands for an
invalid code point. -/
theorem isBlank_ofNat {n : Nat} (h : isBlankCode n = false) : isBlank (Char.ofNat n) = false := by
  rw [isBlank_eq]
  by_cases hn : n.isValidChar
  · rw [Char.ofNat, dif_pos hn]
    exact h
  · rw [Char.ofNat, dif_neg hn]
    rfl

namespace Uppercase

/-- Whether no blank range reaches into the code points from `first` to `last`. -/
def clearOfBlanks (first last : Nat) : Bool :=
  blankRanges.all fun b => decide (last < b.1) || decide (b.2 < first)

theorem isBlankCode_of_clear {first last n : Nat} (h : clearOfBlanks first last = true)
    (hf : first ≤ n) (hl : n ≤ last) : isBlankCode n = false := by
  rw [Bool.eq_false_iff]
  intro hn
  obtain ⟨b, hb, hbn, hnb⟩ := isBlankCode_eq_true_iff.1 hn
  have hclear := List.all_eq_true.1 h b hb
  simp only [Bool.or_eq_true, decide_eq_true_eq] at hclear
  omega

/-- No run holds a blank, and no blank is the upper case of a code point of a run. -/
theorem clear_runs : ∀ r ∈ runs, clearOfBlanks r.first r.last = true ∧
    clearOfBlanks r.target (r.target + (r.last - r.first)) = true := by
  decide +kernel

/-- No blank has an expansion, none is part of one, and every expansion has some part. -/
theorem clear_expansions : ∀ e ∈ expansions, isBlankCode e.1 = false ∧ e.2 ≠ [] ∧
    ∀ n ∈ e.2, isBlankCode n = false := by
  decide +kernel

theorem mem_of_runOf? {n : Nat} {r : Run} (h : runOf? n = some r) :
    r ∈ runs ∧ r.first ≤ n ∧ n ≤ r.last := by
  rw [runOf?_eq_find?] at h
  have hcovers := List.find?_some h
  simp only [Run.covers, Bool.and_eq_true, decide_eq_true_eq] at hcovers
  exact ⟨List.mem_of_find?_eq_some h, hcovers.1⟩

theorem mem_of_expansionOf? {n : Nat} {e : Nat × List Nat} (h : expansionOf? n = some e) :
    e ∈ expansions ∧ e.1 = n := by
  rw [expansionOf?_eq_find?] at h
  have hcode := List.find?_some h
  simp only [beq_iff_eq] at hcode
  exact ⟨List.mem_of_find?_eq_some h, hcode⟩

/-- A blank is its own upper case. -/
theorem codes_of_isBlankCode {n : Nat} (h : isBlankCode n = true) : codes n = [n] := by
  unfold codes
  split
  · rename_i r hr
    obtain ⟨hmem, hfirst, hlast⟩ := mem_of_runOf? hr
    have hclear := isBlankCode_of_clear (clear_runs r hmem).1 hfirst hlast
    rw [h] at hclear
    cases hclear
  · split
    · rename_i e he
      obtain ⟨hmem, rfl⟩ := mem_of_expansionOf? he
      have hclear := (clear_expansions e hmem).1
      rw [h] at hclear
      cases hclear
    · rfl

/-- What is not blank has an upper case, and no blank is part of it. -/
theorem isBlankCode_of_mem_codes {n : Nat} (h : isBlankCode n = false) :
    codes n ≠ [] ∧ ∀ m ∈ codes n, isBlankCode m = false := by
  unfold codes
  split
  · rename_i r hr
    obtain ⟨hmem, hfirst, hlast⟩ := mem_of_runOf? hr
    refine ⟨List.cons_ne_nil _ _, ?_⟩
    intro m hm
    obtain rfl := List.mem_singleton.1 hm
    have hfrom : r.target ≤ r.shift n := Nat.le_add_right _ _
    have hto : r.shift n ≤ r.target + (r.last - r.first) := by
      unfold Run.shift
      omega
    exact isBlankCode_of_clear (clear_runs r hmem).2 hfrom hto
  · split
    · rename_i e he
      obtain ⟨hmem, rfl⟩ := mem_of_expansionOf? he
      exact (clear_expansions e hmem).2
    · refine ⟨List.cons_ne_nil _ _, ?_⟩
      intro m hm
      obtain rfl := List.mem_singleton.1 hm
      exact h

/-- The upper case of a character is blank exactly if the character is. -/
theorem allBlank_ofChar (c : Char) : allBlank (ofChar c) = isBlank c := by
  cases h : isBlank c with
  | true =>
      rw [isBlank_eq] at h
      rw [ofChar, codes_of_isBlankCode h, List.map_singleton, Char.ofNat_toNat, allBlank,
        List.all_cons, List.all_nil, Bool.and_true, isBlank_eq, h]
  | false =>
      rw [isBlank_eq] at h
      obtain ⟨hne, hcodes⟩ := isBlankCode_of_mem_codes h
      obtain ⟨n, ns, hcons⟩ := List.exists_cons_of_ne_nil hne
      have hn : isBlank (Char.ofNat n) = false :=
        isBlank_ofNat (hcodes n (hcons ▸ List.mem_cons_self))
      rw [ofChar, hcons, List.map_cons, allBlank, List.all_cons, hn, Bool.false_and]

end Uppercase

/-- **Exactly the blank texts have a blank upper case.** -/
theorem allBlank_uppercase (s : List Char) : allBlank (uppercase s) = allBlank s := by
  induction s with
  | nil => rfl
  | cons c s ih =>
      have hc := Uppercase.allBlank_ofChar c
      unfold allBlank at hc ih ⊢
      rw [uppercase_cons, List.all_append, hc, ih, List.all_cons]

/-! ### Texts that are their own upper case -/

namespace Uppercase

/-- No mapping to one character concerns a code point before that of `a`. -/
theorem le_first_of_mem_runs : ∀ r ∈ runs, 97 ≤ r.first := by
  decide +kernel

theorem le_of_mem_expansions : ∀ e ∈ expansions, 97 ≤ e.1 := by
  decide +kernel

theorem codes_of_lt {n : Nat} (h : n < 97) : codes n = [n] := by
  unfold codes
  split
  · rename_i r hr
    obtain ⟨hmem, hfirst, -⟩ := mem_of_runOf? hr
    have hle := le_first_of_mem_runs r hmem
    omega
  · split
    · rename_i e he
      obtain ⟨hmem, rfl⟩ := mem_of_expansionOf? he
      have hle := le_of_mem_expansions e hmem
      omega
    · rfl

end Uppercase

/-- Whether a text has only code points before that of `a`, the first with another upper case. -/
def isCaseless (s : List Char) : Bool := s.all fun c => decide (c.toNat < 97)

@[simp] theorem isCaseless_append (s t : List Char) :
    isCaseless (s ++ t) = (isCaseless s && isCaseless t) := List.all_append

@[simp] theorem isCaseless_cons (c : Char) (s : List Char) :
    isCaseless (c :: s) = (decide (c.toNat < 97) && isCaseless s) := rfl

/-- **Such a text is its own upper case.** -/
theorem uppercase_of_isCaseless {s : List Char} (h : isCaseless s = true) : uppercase s = s := by
  induction s with
  | nil => rfl
  | cons c s ih =>
      rw [isCaseless_cons, Bool.and_eq_true, decide_eq_true_eq] at h
      rw [uppercase_cons, Uppercase.ofChar, Uppercase.codes_of_lt h.1, List.map_singleton,
        Char.ofNat_toNat, ih h.2, List.singleton_append]

end TorusRobot.Text

namespace TorusRobot

theorem CasePolicy.allBlank_normalize (policy : CasePolicy) (line : String) :
    Text.allBlank (policy.normalize line).toList = Text.allBlank line.toList := by
  cases policy with
  | uppercase => rw [normalize, String.toList_ofList, Text.allBlank_uppercase]
  | exact => rfl

/-- A line of code points before that of `a` is read as it is, however lines are treated. -/
theorem CasePolicy.normalize_of_isCaseless {policy : CasePolicy} {line : String}
    (h : Text.isCaseless line.toList = true) : policy.normalize line = line := by
  cases policy with
  | uppercase => rw [normalize, Text.uppercase_of_isCaseless h, String.ofList_toList]
  | exact => rfl

/-- **Exactly the blank lines have no outcome**, however lines are treated. -/
theorem Session.submit_eq_none_iff_allBlank {s : Session} {line : String} {now : Nat} :
    (s.submit line now).2 = none ↔ Text.allBlank line.toList = true := by
  rw [submit_eq_none_iff, commandOf, Command.isEmpty_read_iff, CasePolicy.allBlank_normalize]

end TorusRobot
