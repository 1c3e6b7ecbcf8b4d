/-
**Trimming and cutting.**

The blanks at the two ends of a text are taken off independently of each other, and it makes no
difference to the fields between commas whether that is done before the text is cut: the fields
are trimmed anyway.  So a line can be read piece by piece: the blanks before it, the verb, the
blank behind the verb, and the fields of all that follows.

Main definitions:

* `TorusRobot.Text.fields` — the pieces between commas, trimmed, the blank ones left out;
* `TorusRobot.Command.Written` — a line that is a verb and fields behind it.

Main results:

* `TorusRobot.Text.trimEnd_cons_eq` — taking blanks off the end, character by character;
* `TorusRobot.Text.trimStart_trimEnd`, `TorusRobot.Text.trim_trim` — the two ends do not meet, and
  there is nothing to take off twice;
* `TorusRobot.Text.words_eq`, `TorusRobot.Text.pieces_eq_splitOn` — cutting is splitting a list;
* `TorusRobot.Text.fields_trim`, `TorusRobot.Text.fields_append_comma` — what makes no difference
  to the fields, and what separates them;
* `TorusRobot.Text.of_mem_fields`, `TorusRobot.Text.fields_intercalate` — what a field is, and the
  fields of pieces that are put together;
* `TorusRobot.Command.arguments_eq_fields` — the arguments of a command are the fields;
* `TorusRobot.Command.written_iff` — what is read is what is written.
-/
import TorusRobot.Command.Line

set_option relaxedAutoImplicit false
set_option autoImplicit false

namespace TorusRobot.Text

/-! ### The two ends -/

theorem trimStart_of_isBlank {c : Char} (h : isBlank c = true) (s : List Char) :
    trimStart (c :: s) = trimStart s := by
  simp [trimStart, h]

theorem trimStart_of_not_isBlank {c : Char} (h : isBlank c = false) (s : List Char) :
    trimStart (c :: s) = c :: s := by
  simp [trimStart, h]

/-- A blank at the start goes from the end only if all the rest goes. -/
theorem trimEnd_cons_eq (c : Char) (s : List Char) :
    trimEnd (c :: s) = if trimEnd s = [] then trimEnd [c] else c :: trimEnd s := by
  unfold trimEnd
  rw [List.reverse_cons, List.dropWhile_append]
  split
  · rename_i h
    rw [List.isEmpty_iff] at h
    simp [h]
  · rename_i h
    rw [List.isEmpty_iff] at h
    simp [h]

theorem trimEnd_singleton (c : Char) : trimEnd [c] = if isBlank c then [] else [c] := by
  cases h : isBlank c <;> simp [trimEnd, h]

/-- What is behind a text matters to its end only. -/
theorem trimEnd_append {s t : List Char} (h : trimEnd t ≠ []) :
    trimEnd (s ++ t) = s ++ trimEnd t := by
  induction s with
  | nil => rfl
  | cons c s ih =>
      rw [List.cons_append, trimEnd_cons_eq, ih, if_neg (by simp [h]), List.cons_append]

/-- **The two ends do not meet**: it is all one which of them is trimmed first. -/
theorem trimStart_trimEnd (s : List Char) : trimStart (trimEnd s) = trimEnd (trimStart s) := by
  induction s with
  | nil => rfl
  | cons c s ih =>
      cases hc : isBlank c with
      | false =>
          rw [trimStart_of_not_isBlank hc, trimEnd_cons hc, trimStart_of_not_isBlank hc]
      | true =>
          rw [trimStart_of_isBlank hc, ← ih, trimEnd_cons_eq]
          split
          · rename_i h
            simp [trimEnd_singleton, hc, h]
          · rw [trimStart_of_isBlank hc]

theorem trimEnd_of_forall {s : List Char} (h : ∀ c ∈ s, isBlank c = false) : trimEnd s = s := by
  induction s with
  | nil => rfl
  | cons c s ih =>
      rw [trimEnd_cons (h c List.mem_cons_self), ih fun d hd => h d (List.mem_cons_of_mem c hd)]

/-- A text without blanks is as it is when trimmed. -/
theorem trim_of_forall {s : List Char} (h : ∀ c ∈ s, isBlank c = false) : trim s = s := by
  cases s with
  | nil => rfl
  | cons c s => rw [trim, trimStart_of_not_isBlank (h c List.mem_cons_self), trimEnd_of_forall h]

theorem trim_cons_of_isBlank {c : Char} (h : isBlank c = true) (s : List Char) :
    trim (c :: s) = trim s := by
  rw [trim, trimStart_of_isBlank h, trim]

/-- Blanks behind a text go from its end. -/
theorem trimEnd_append_of_blank {t : List Char} (h : trimEnd t = []) (s : List Char) :
    trimEnd (s ++ t) = trimEnd s := by
  induction s with
  | nil => rw [List.nil_append, h, trimEnd_eq_nil_iff.2 (List.forall_mem_nil _)]
  | cons c s ih => rw [List.cons_append, trimEnd_cons_eq, ih, ← trimEnd_cons_eq]

/-- Blanks before a text go from its start. -/
theorem trim_append_of_blank {s : List Char} (h : ∀ c ∈ s, isBlank c = true) (t : List Char) :
    trim (s ++ t) = trim t := by
  induction s with
  | nil => rfl
  | cons c s ih =>
      obtain ⟨hc, hs⟩ := List.forall_mem_cons.1 h
      rw [List.cons_append, trim_cons_of_isBlank hc, ih hs]

theorem trimStart_trimStart (s : List Char) : trimStart (trimStart s) = trimStart s := by
  cases h : trimStart s with
  | nil => rfl
  | cons c t => exact trimStart_of_not_isBlank (isBlank_of_trimStart h) t

theorem trimEnd_trimEnd (s : List Char) : trimEnd (trimEnd s) = trimEnd s := by
  have h := trimStart_trimStart s.reverse
  rw [trimEnd, trimEnd, List.reverse_reverse]
  exact congrArg List.reverse h

/-- **A trimmed text is as it is when trimmed.** -/
theorem trim_trim (s : List Char) : trim (trim s) = trim s := by
  rw [trim, trim, trimStart_trimEnd, trimStart_trimStart, trimEnd_trimEnd]

/-- Trimming adds no characters. -/
theorem mem_of_mem_trim {c : Char} {s : List Char} (h : c ∈ trim s) : c ∈ s := by
  rw [trim, trimEnd, List.mem_reverse] at h
  have hmem := (List.dropWhile_sublist isBlank).mem h
  exact (List.dropWhile_sublist isBlank).mem (List.mem_reverse.1 hmem)

/-! ### Words -/

theorem modifyHead_nil_append (ws : List (List Char)) :
    ws.modifyHead (([] : List Char).reverse ++ ·) = ws := by
  cases ws <;> rfl

/-- The characters read of the current word belong to the first of the pieces between blanks. -/
theorem wordsFrom_eq (word s : List Char) :
    wordsFrom word s =
      ((s.splitOnP isBlank).modifyHead (word.reverse ++ ·)).filter fun w => w ≠ [] := by
  fun_induction wordsFrom word s with
  | case1 word h =>
      rw [List.isEmpty_iff] at h
      simp [h]
  | case2 word h =>
      rw [List.isEmpty_iff] at h
      simp [h]
  | case3 word c s hc h ih =>
      rw [List.isEmpty_iff] at h
      rw [ih, modifyHead_nil_append]
      simp [List.splitOnP_cons_eq_if_modifyHead, hc, h]
  | case4 word c s hc h ih =>
      rw [List.isEmpty_iff] at h
      rw [ih, modifyHead_nil_append]
      simp [List.splitOnP_cons_eq_if_modifyHead, hc, h]
  | case5 word c s hc ih =>
      rw [ih, List.splitOnP_cons_eq_if_modifyHead, if_neg hc, List.modifyHead_modifyHead]
      congr 2
      funext w
      simp

/-- **The words of a text are what is between its blanks**, unless nothing is. -/
theorem words_eq (s : List Char) : words s = (s.splitOnP isBlank).filter fun w => w ≠ [] := by
  rw [words, wordsFrom_eq, modifyHead_nil_append]

/-! ### Fields -/

theorem pieces_cons_of_ne {sep c : Char} (h : c ≠ sep) (s : List Char) :
    pieces sep (c :: s) = (pieces sep s).modifyHead (List.cons c) := by
  rw [pieces, if_neg h]
  cases hp : pieces sep s with
  | nil => exact absurd hp (pieces_ne_nil sep s)
  | cons p ps => rfl

/-- Cutting is splitting a list. -/
theorem pieces_eq_splitOn (sep : Char) (s : List Char) : pieces sep s = s.splitOn sep := by
  induction s with
  | nil => rfl
  | cons c s ih =>
      rw [List.splitOn_eq_splitOnP, List.splitOnP_cons_eq_if_modifyHead,
        ← List.splitOn_eq_splitOnP, ← ih]
      by_cases h : c = sep
      · simp [pieces, h]
      · rw [pieces_cons_of_ne h, if_neg (by simpa using h)]

theorem pieces_of_notMem {sep : Char} {s : List Char} (h : sep ∉ s) : pieces sep s = [s] := by
  induction s with
  | nil => rfl
  | cons c s ih =>
      rw [List.mem_cons, not_or] at h
      rw [pieces_cons_of_ne (Ne.symm h.1), ih h.2]
      rfl

/-- The separator is in none of the pieces. -/
theorem notMem_of_mem_pieces {sep : Char} {s p : List Char} (h : p ∈ pieces sep s) : sep ∉ p := by
  induction s generalizing p with
  | nil =>
      obtain rfl := List.mem_singleton.1 h
      exact List.not_mem_nil
  | cons c s ih =>
      by_cases hc : c = sep
      · rw [pieces, if_pos hc, List.mem_cons] at h
        rcases h with rfl | h
        · exact List.not_mem_nil
        · exact ih h
      · rw [pieces_cons_of_ne hc] at h
        cases hs : pieces sep s with
        | nil => exact absurd hs (pieces_ne_nil sep s)
        | cons q qs =>
            rw [hs, List.modifyHead_cons, List.mem_cons] at h
            rcases h with rfl | h
            · have hq := ih (p := q) (hs ▸ List.mem_cons_self)
              rw [List.mem_cons, not_or]
              exact ⟨Ne.symm hc, hq⟩
            · exact ih (hs ▸ List.mem_cons_of_mem q h)

/-- The fields of a text: what is between its commas, trimmed, unless it is blank. -/
def fields (s : List Char) : List (List Char) :=
  ((s.splitOn ',').map trim).filter fun f => f ≠ []

theorem ne_comma_of_isBlank {c : Char} (h : isBlank c = true) : c ≠ ',' := by
  rintro rfl
  cases h

/-- A blank at the start belongs to the first piece. -/
theorem fields_cons_of_isBlank {c : Char} (h : isBlank c = true) (s : List Char) :
    fields (c :: s) = fields s := by
  have hmap : (pieces ',' (c :: s)).map trim = (pieces ',' s).map trim := by
    rw [pieces_cons_of_ne (ne_comma_of_isBlank h)]
    cases hp : pieces ',' s with
    | nil => exact absurd hp (pieces_ne_nil ',' s)
    | cons p ps => simp [trim_cons_of_isBlank h]
  rw [fields, fields, ← pieces_eq_splitOn, ← pieces_eq_splitOn, hmap]

theorem fields_trimStart (s : List Char) : fields (trimStart s) = fields s := by
  induction s with
  | nil => rfl
  | cons c s ih =>
      cases hc : isBlank c with
      | false => rw [trimStart_of_not_isBlank hc]
      | true => rw [trimStart_of_isBlank hc, ih, fields_cons_of_isBlank hc]

/-- A character before a text changes its first piece, at whose end it makes no difference which
blanks are there. -/
theorem map_trimEnd_pieces_cons {s t : List Char} (sep c : Char)
    (h : (pieces sep s).map trimEnd = (pieces sep t).map trimEnd) :
    (pieces sep (c :: s)).map trimEnd = (pieces sep (c :: t)).map trimEnd := by
  by_cases hc : c = sep
  · simp [pieces, hc, h]
  · rw [pieces_cons_of_ne hc, pieces_cons_of_ne hc]
    cases hs : pieces sep s with
    | nil => exact absurd hs (pieces_ne_nil sep s)
    | cons p ps =>
        cases ht : pieces sep t with
        | nil => exact absurd ht (pieces_ne_nil sep t)
        | cons q qs =>
            rw [hs, ht, List.map_cons, List.map_cons, List.cons.injEq] at h
            simp [trimEnd_cons_eq c p, trimEnd_cons_eq c q, h.1, h.2]

theorem map_trimEnd_pieces_trimEnd (s : List Char) :
    (pieces ',' (trimEnd s)).map trimEnd = (pieces ',' s).map trimEnd := by
  induction s with
  | nil => rfl
  | cons c s ih =>
      rw [trimEnd_cons_eq]
      split
      · rename_i hs
        rw [hs] at ih
        rw [← map_trimEnd_pieces_cons ',' c ih, trimEnd_singleton]
        split
        · rename_i hc
          rw [pieces_cons_of_ne (ne_comma_of_isBlank hc)]
          simp [trimEnd_singleton, hc]
          rfl
        · rfl
      · exact map_trimEnd_pieces_cons ',' c ih

theorem fields_trimEnd (s : List Char) : fields (trimEnd s) = fields s := by
  have htrim : trim = trimStart ∘ trimEnd := by
    funext p
    exact (trimStart_trimEnd p).symm
  rw [fields, fields, ← pieces_eq_splitOn, ← pieces_eq_splitOn, htrim, ← List.map_map,
    ← List.map_map, map_trimEnd_pieces_trimEnd]

/-- **It makes no difference to the fields whether a text is trimmed before it is cut.** -/
theorem fields_trim (s : List Char) : fields (trim s) = fields s := by
  rw [trim, fields_trimEnd, fields_trimStart]

theorem pieces_append_cons (sep : Char) (s t : List Char) :
    pieces sep (s ++ sep :: t) = pieces sep s ++ pieces sep t := by
  induction s with
  | nil => simp [pieces]
  | cons c s ih =>
      by_cases hc : c = sep
      · simp [pieces, hc, ih]
      · rw [List.cons_append, pieces_cons_of_ne hc, pieces_cons_of_ne hc, ih]
        cases hs : pieces sep s with
        | nil => exact absurd hs (pieces_ne_nil sep s)
        | cons p ps => rfl

/-- A comma separates the fields before it from those behind it. -/
theorem fields_append_comma (s t : List Char) : fields (s ++ ',' :: t) = fields s ++ fields t := by
  simp only [fields, ← pieces_eq_splitOn, pieces_append_cons, List.map_append, List.filter_append]

/-- A field is neither empty nor blank at either end, and it has no comma. -/
theorem of_mem_fields {s f : List Char} (h : f ∈ fields s) : f ≠ [] ∧ trim f = f ∧ ',' ∉ f := by
  rw [fields, ← pieces_eq_splitOn, List.mem_filter, List.mem_map, decide_eq_true_eq] at h
  obtain ⟨⟨p, hp, rfl⟩, hne⟩ := h
  exact ⟨hne, trim_trim p, fun hmem => notMem_of_mem_pieces hp (mem_of_mem_trim hmem)⟩

/-- Pieces without commas that are joined by commas are cut apart again. -/
theorem fields_intercalate {ps : List (List Char)} (h : ∀ p ∈ ps, ',' ∉ p) :
    fields ([','].intercalate ps) = (ps.map trim).filter fun f => f ≠ [] := by
  cases ps with
  | nil => rfl
  | cons p ps => rw [fields, List.splitOn_intercalate ',' h (List.cons_ne_nil p ps)]

/-- A word without a comma is a field. -/
theorem fields_of_not_mem {s : List Char} (hs : s ≠ []) (hcomma : ',' ∉ s)
    (hblank : ∀ c ∈ s, isBlank c = false) : fields s = [s] := by
  simp [fields, ← pieces_eq_splitOn, pieces_of_notMem hcomma, trim_of_forall hblank, hs]

end TorusRobot.Text

namespace TorusRobot.Command

open Text

/-! ### Lines -/

/-- The verb goes up to the first blank. -/
theorem breakAtBlank_append {v rest : List Char} {b : Char} (hv : ∀ c ∈ v, isBlank c = false)
    (hb : isBlank b = true) : breakAtBlank (v ++ b :: rest) = (v, rest) := by
  induction v with
  | nil => simp [breakAtBlank, hb]
  | cons c v ih =>
      have hc := hv c List.mem_cons_self
      have ih := ih fun d hd => hv d (List.mem_cons_of_mem c hd)
      simp only [breakAtBlank, Prod.mk.injEq] at ih ⊢
      simp [hc, ih.1, ih.2]

/-- What is found behind the first blank is separated from the verb by that blank. -/
theorem eq_of_breakAtBlank {s v rest : List Char} (h : breakAtBlank s = (v, rest))
    (hrest : rest ≠ []) : ∃ b, isBlank b = true ∧ s = v ++ b :: rest := by
  obtain ⟨rfl, rfl⟩ := Prod.mk.inj h
  have hsplit := List.takeWhile_append_dropWhile (p := fun c => !isBlank c) (l := s)
  cases hd : s.dropWhile fun c => !isBlank c with
  | nil =>
      rw [hd] at hrest
      exact absurd rfl hrest
  | cons b t =>
      have hb := List.head?_dropWhile_not (fun c => !isBlank c) s
      rw [hd] at hb hsplit
      exact ⟨b, by simpa using hb, hsplit.symm⟩

/-- The arguments of a command are the fields of what follows its verb. -/
theorem arguments_eq_fields (s : List Char) : arguments s = fields s := by
  rw [← fields_trim, arguments, fields, pieces_eq_splitOn]
  congr 1
  funext f
  cases f <;> rfl

/-- The command of a line that goes on after its verb. -/
theorem read_of_eq {line : String} {v rest : List Char} {b : Char}
    (h : trim line.toList = v ++ b :: rest) (hv : ∀ c ∈ v, isBlank c = false)
    (hb : isBlank b = true) :
    read line =
      ⟨String.ofList v, (fields rest).map String.ofList, String.ofList (v ++ b :: rest)⟩ := by
  rw [read, h]
  simp [breakAtBlank_append hv hb, arguments_eq_fields]

/-- Between blanks, the line is the verb, one blank, and a text with the given fields. -/
def Written (line verb : String) (args : List String) : Prop :=
  ∃ b rest, isBlank b = true ∧ trim line.toList = verb.toList ++ b :: rest ∧
    (fields rest).map String.ofList = args

/-- **A line is read as a verb with arguments exactly if they are written there.** -/
theorem written_iff {line verb : String} {args : List String}
    (hv : ∀ c ∈ verb.toList, isBlank c = false) (hargs : args ≠ []) :
    Written line verb args ↔ (read line).verb = verb ∧ (read line).args = args := by
  constructor
  · rintro ⟨b, rest, hb, hline, rfl⟩
    rw [read_of_eq hline hv hb, String.ofList_toList]
    exact ⟨rfl, rfl⟩
  · rintro ⟨hverb, rfl⟩
    cases hs : trim line.toList with
    | nil =>
        -- the empty command has no arguments
        rw [read, hs] at hargs
        exact absurd rfl hargs
    | cons c s =>
        cases hcut : breakAtBlank (c :: s) with
        | mk v rest =>
            have hread : read line =
                ⟨String.ofList v, (fields rest).map String.ofList, String.ofList (c :: s)⟩ := by
              rw [read, hs]
              simp [hcut, arguments_eq_fields]
            rw [hread] at hverb hargs ⊢
            have hrest : rest ≠ [] := by
              rintro rfl
              exact hargs rfl
            obtain ⟨b, hb, heq⟩ := eq_of_breakAtBlank hcut hrest
            exact ⟨b, rest, hb, by rw [hs, heq, ← hverb, String.toList_ofList], rfl⟩

/-- Blanks behind the fields are not missed. -/
theorem written_of_eq {line verb : String} {rest : List Char} {b : Char}
    (h : line.toList = verb.toList ++ b :: rest) (hv : ∀ c ∈ verb.toList, isBlank c = false)
    (hne : verb.toList ≠ []) (hb : isBlank b = true) (hrest : fields rest ≠ []) :
    Written line verb ((fields rest).map String.ofList) := by
  have hend : trimEnd rest ≠ [] := by
    intro he
    rw [← fields_trimEnd, he] at hrest
    exact hrest rfl
  obtain ⟨c, v, hcv⟩ := List.exists_cons_of_ne_nil hne
  have htrim : trim line.toList = verb.toList ++ b :: trimEnd rest := by
    have hc := hv c (hcv ▸ List.mem_cons_self)
    have hb' : trimEnd (b :: rest) = b :: trimEnd rest := by
      rw [trimEnd_cons_eq, if_neg hend]
    rw [h, hcv, List.cons_append, trim, trimStart_of_not_isBlank hc, ← List.cons_append, ← hcv,
      trimEnd_append (hb' ▸ List.cons_ne_nil _ _), hb']
  exact ⟨b, trimEnd rest, hb, htrim, by rw [fields_trimEnd]⟩

end TorusRobot.Command
