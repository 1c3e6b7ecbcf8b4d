/-
**Reading and writing commands.**

What a line is read as is always in order: either the line is blank and asks for nothing, or it has
a verb, which is a word, and arguments that are fields.  Words and fields are all that is needed
for the way back: every such verb and arguments have a line that is read as them.  Reading passes
over much besides, blanks around the line, blanks around the fields and fields that are missing,
and so a line is one of many that are read alike.

Main definitions:

* `TorusRobot.Text.trimmed` — a string without the blanks at its two ends;
* `TorusRobot.Command.IsWord`, `TorusRobot.Command.IsField` — what verbs and arguments are.

Main results:

* `TorusRobot.Command.isWord_verb`, `TorusRobot.Command.isField_of_mem_args` — what is read is in
  order;
* `TorusRobot.Command.read_of_word` — a word, a blank and anything behind it;
* `TorusRobot.Command.read_loose` — a word and pieces between commas, with blanks around;
* `TorusRobot.Command.reading_inverts_writing` — **lines and commands correspond**.
-/
import TorusRobot.Proofs.Text.Cutting

set_option relaxedAutoImplicit false
set_option autoImplicit false

namespace TorusRobot

/-- A string without the blanks at its two ends. -/
def Text.trimmed (s : String) : String := String.ofList (trim s.toList)

theorem Text.toList_trimmed (s : String) : (trimmed s).toList = trim s.toList :=
  String.toList_ofList

namespace Command

open Text

/-- A word is not empty and has no blanks. -/
structure IsWord (v : String) : Prop where
  ne_empty : v ≠ ""
  not_isBlank : ∀ c ∈ v.toList, isBlank c = false

/-- A field is not empty, has no blanks at its ends, and no comma. -/
structure IsField (a : String) : Prop where
  ne_empty : a ≠ ""
  trimmed_eq : trimmed a = a
  notMem : ',' ∉ a.toList

variable {line v : String}

/-! ### What is read -/

/-- A line that is not blank is cut at its first blank. -/
theorem read_of_ne_nil (h : trim line.toList ≠ []) :
    read line = ⟨String.ofList (breakAtBlank (trim line.toList)).1,
      (fields (breakAtBlank (trim line.toList)).2).map String.ofList, trimmed line⟩ := by
  rw [read]
  simp [h, arguments_eq_fields, trimmed]

/-- Only what is between the blanks at its ends counts. -/
theorem read_congr {line' : String} (h : trim line.toList = trim line'.toList) :
    read line = read line' := by
  rw [read, h, read]

theorem read_trimmed (line : String) : read (trimmed line) = read line :=
  read_congr (by rw [toList_trimmed, trim_trim])

theorem blank_or_not (s : List Char) :
    (∀ c ∈ s, isBlank c = true) ∨ ∃ c ∈ s, isBlank c = false := by
  cases h : allBlank s with
  | true => exact .inl (List.all_eq_true.1 h)
  | false =>
      obtain ⟨c, hc, hblank⟩ := List.all_eq_false.1 h
      exact .inr ⟨c, hc, by simpa using hblank⟩

/-- A blank line is read as the empty command. -/
theorem read_of_blank (h : ∀ c ∈ line.toList, isBlank c = true) : read line = empty := by
  rw [read, trim_eq_nil_iff.2 (List.all_eq_true.2 h)]
  rfl

theorem trim_ne_nil (h : ∃ c ∈ line.toList, isBlank c = false) : trim line.toList ≠ [] := by
  obtain ⟨c, hc, hblank⟩ := h
  intro hnil
  have hall := List.all_eq_true.1 (trim_eq_nil_iff.1 hnil) c hc
  rw [hblank] at hall
  cases hall

/-- The verb of a line that is not blank is a word. -/
theorem isWord_verb (h : ∃ c ∈ line.toList, isBlank c = false) : IsWord (read line).verb := by
  have hne := trim_ne_nil h
  rw [read_of_ne_nil hne]
  constructor
  · -- the first character is not blank, and so belongs to the verb
    obtain ⟨c, t, hct⟩ := List.exists_cons_of_ne_nil hne
    have hc := isBlank_of_trim hct
    simp [hct, breakAtBlank, hc]
  · intro c hc
    rw [String.toList_ofList] at hc
    simpa using List.all_eq_true.1 List.all_takeWhile c hc

/-- Every argument is a field. -/
theorem isField_of_mem_args {a : String} (h : a ∈ (read line).args) : IsField a := by
  by_cases hnil : trim line.toList = []
  · rw [read, hnil] at h
    exact absurd h List.not_mem_nil
  · rw [read_of_ne_nil hnil] at h
    obtain ⟨f, hf, rfl⟩ := List.mem_map.1 h
    obtain ⟨hne, htrim, hcomma⟩ := of_mem_fields hf
    refine ⟨?_, ?_, ?_⟩
    · exact fun he => hne (String.ofList_eq_empty_iff.1 he)
    · rw [trimmed, String.toList_ofList, htrim]
    · rwa [String.toList_ofList]

theorem raw_read (line : String) : (read line).raw = trimmed line := by
  by_cases hnil : trim line.toList = []
  · rw [read, trimmed, hnil]
    rfl
  · rw [read_of_ne_nil hnil]

/-! ### What is written -/

/-- A word has nothing behind its first blank. -/
theorem breakAtBlank_of_forall {s : List Char} (h : ∀ c ∈ s, isBlank c = false) :
    breakAtBlank s = (s, []) := by
  induction s with
  | nil => rfl
  | cons c s ih =>
      obtain ⟨hc, hs⟩ := List.forall_mem_cons.1 h
      have ih := ih hs
      simp only [breakAtBlank, Prod.mk.injEq] at ih ⊢
      simp [hc, ih.1, ih.2]

/-- **A word is the verb, and the fields behind the blank that follows it are the arguments**,
whether or not there are any. -/
theorem read_of_word {before rest : List Char} {b : Char} (hv : IsWord v) (hb : isBlank b = true)
    (hbefore : ∀ c ∈ before, isBlank c = true)
    (h : line.toList = before ++ (v.toList ++ b :: rest)) :
    (read line).verb = v ∧ (read line).args = (fields rest).map String.ofList := by
  have hne : v.toList ≠ [] := fun he => hv.ne_empty (String.toList_eq_nil_iff.1 he)
  have htrim : trim line.toList = trimEnd (v.toList ++ b :: rest) := by
    obtain ⟨c, t, hct⟩ := List.exists_cons_of_ne_nil hne
    have hc := hv.not_isBlank c (hct ▸ List.mem_cons_self)
    rw [h, trim_append_of_blank hbefore, trim, hct, List.cons_append, trimStart_of_not_isBlank hc]
  by_cases hrest : trimEnd (b :: rest) = []
  · -- nothing but blanks follows the verb, and the blank between them is gone too
    have hfields : fields rest = [] := by
      rw [← fields_cons_of_isBlank hb, ← fields_trimEnd, hrest]
      rfl
    rw [trimEnd_append_of_blank hrest, trimEnd_of_forall hv.not_isBlank] at htrim
    rw [read_of_ne_nil (htrim ▸ hne), htrim, breakAtBlank_of_forall hv.not_isBlank, hfields]
    exact ⟨String.ofList_toList, rfl⟩
  · have hend : trimEnd (b :: rest) = b :: trimEnd rest := by
      rw [trimEnd_cons_eq, if_neg]
      intro hnil
      rw [trimEnd_cons_eq, if_pos hnil, trimEnd_singleton, if_pos hb] at hrest
      exact hrest rfl
    rw [trimEnd_append hrest, hend] at htrim
    rw [read_of_eq htrim hv.not_isBlank hb, fields_trimEnd]
    exact ⟨String.ofList_toList, rfl⟩

theorem map_ofList_filter (fs : List (List Char)) :
    (fs.filter fun f => f ≠ []).map String.ofList =
      (fs.map String.ofList).filter fun a => a ≠ "" := by
  simp [List.filter_map, Function.comp_def, String.ofList_eq_empty_iff]

/-- **Pieces between commas are read as the fields that they hold**, whatever blanks there are
around them and around the whole. -/
theorem read_loose {before after : String} {pieces : List String} (hv : IsWord v)
    (hpieces : ∀ p ∈ pieces, ',' ∉ p.toList) (hbefore : ∀ c ∈ before.toList, isBlank c = true)
    (hafter : ∀ c ∈ after.toList, isBlank c = true) :
    (read (before ++ (v ++ " " ++ ",".intercalate pieces) ++ after)).verb = v ∧
      (read (before ++ (v ++ " " ++ ",".intercalate pieces) ++ after)).args =
        (pieces.map trimmed).filter fun a => a ≠ "" := by
  have hline : (before ++ (v ++ " " ++ ",".intercalate pieces) ++ after).toList =
      before.toList ++ (v.toList ++
        ' ' :: ([','].intercalate (pieces.map String.toList) ++ after.toList)) := by
    simp [String.toList_append, String.toList_intercalate]
  have hcommas : ∀ p ∈ pieces.map String.toList, ',' ∉ p := by
    simpa using hpieces
  have hfields : fields ([','].intercalate (pieces.map String.toList) ++ after.toList) =
      ((pieces.map String.toList).map trim).filter fun f => f ≠ [] := by
    rw [← fields_trimEnd, trimEnd_append_of_blank (trimEnd_eq_nil_iff.2 hafter), fields_trimEnd,
      fields_intercalate hcommas]
  obtain ⟨hverb, hargs⟩ := read_of_word hv rfl hbefore hline
  refine ⟨hverb, ?_⟩
  rw [hargs, hfields, map_ofList_filter, List.map_map, List.map_map]
  rfl

/-- **The usual line for a word and fields is read as these.** -/
theorem read_line {c : Command} (hv : IsWord c.verb) (hargs : ∀ a ∈ c.args, IsField a) :
    (read c.line).verb = c.verb ∧ (read c.line).args = c.args := by
  have hnone : ∀ d ∈ "".toList, isBlank d = true := List.forall_mem_nil _
  obtain ⟨hverb, hread⟩ := read_loose hv (fun a ha => (hargs a ha).notMem) hnone hnone
  rw [String.empty_append, String.append_empty] at hverb hread
  refine ⟨hverb, hread.trans ?_⟩
  -- fields are as they are when trimmed, and none of them is left out
  have htrimmed : c.args.map trimmed = c.args := by
    rw [List.map_congr_left fun a ha => (hargs a ha).trimmed_eq, List.map_id']
  rw [htrimmed, List.filter_eq_self]
  intro a ha
  simpa using (hargs a ha).ne_empty

/-! ### There and back -/

/-- What was read is read again from its usual line. -/
theorem read_line_read (line : String) :
    (read (read line).line).verb = (read line).verb ∧
      (read (read line).line).args = (read line).args := by
  rcases blank_or_not line.toList with h | h
  · rw [read_of_blank h]
    decide
  · exact read_line (isWord_verb h) fun a ha => isField_of_mem_args ha

/-- **Lines and commands correspond.**  The blank lines are read as the empty command, and they
alone.  Any other line is read as a command whose verb is a word and whose arguments are fields; its
raw text is the line without the blanks at its ends.  Conversely, a word, a space and any fields
between commas are read as that word with those fields, and so what was read from any line is read
again from its usual line.  More than that, a word, a space and any pieces without commas between
commas, blank ones and padded ones among them, and blanks around the whole, are read as that word
with the fields that are left of the pieces when they are trimmed.  Reading the raw text of what was
read gives the same once more. -/
theorem reading_inverts_writing :
    (∀ line, read line = empty ↔ ∀ c ∈ line.toList, isBlank c = true) ∧
    (∀ line, (∃ c ∈ line.toList, isBlank c = false) →
      IsWord (read line).verb ∧ (∀ a ∈ (read line).args, IsField a) ∧
        (read line).raw = trimmed line) ∧
    (∀ v args, IsWord v → (∀ a ∈ args, IsField a) →
      (read (v ++ " " ++ ",".intercalate args)).verb = v ∧
        (read (v ++ " " ++ ",".intercalate args)).args = args) ∧
    (∀ line, (read (read line).line).verb = (read line).verb ∧
      (read (read line).line).args = (read line).args) ∧
    (∀ before v pieces after, IsWord v → (∀ p ∈ pieces, ',' ∉ p.toList) →
      (∀ c ∈ before.toList, isBlank c = true) → (∀ c ∈ after.toList, isBlank c = true) →
      (read (before ++ (v ++ " " ++ ",".intercalate pieces) ++ after)).verb = v ∧
        (read (before ++ (v ++ " " ++ ",".intercalate pieces) ++ after)).args =
          (pieces.map trimmed).filter fun a => a ≠ "") ∧
    ∀ line, read (read line).raw = read line := by
  refine ⟨?_, ?_, ?_, read_line_read, ?_, ?_⟩
  · intro line
    refine ⟨?_, read_of_blank⟩
    intro h
    refine (blank_or_not line.toList).resolve_right fun hword => ?_
    -- the empty command has no verb
    have hverb := (isWord_verb hword).ne_empty
    rw [h] at hverb
    exact hverb rfl
  · intro line h
    exact ⟨isWord_verb h, fun a ha => isField_of_mem_args ha, raw_read line⟩
  · intro v args hv hargs
    exact read_line (c := ⟨v, args, ""⟩) hv hargs
  · intro before v pieces after hv hpieces hbefore hafter
    exact read_loose hv hpieces hbefore hafter
  · intro line
    rw [raw_read, read_trimmed]

/-- A verb that looks like fields. -/
theorem isWord_goOn : IsWord "GO,ON" where
  ne_empty := by decide
  not_isBlank := by
    have hall : ("GO,ON".toList.all fun c => !isBlank c) = true := by decide
    intro c hc
    simpa using List.all_eq_true.1 hall c hc

/-- Pieces of which two are fields when they are trimmed. -/
def untidy : List String := ["\u30001 2", "", "\t", "+3 "]

/-- The hypotheses of `TorusRobot.Command.reading_inverts_writing` are met by a verb with a comma in
it and pieces of which some are blank; the line is read as the fields among them, and so is the
usual line with just these fields. -/
theorem reading_inverts_writing_untidy :
    (read ("\u2003\n" ++ ("GO,ON" ++ " " ++ ",".intercalate untidy) ++ "\u0085 ")).args =
        ["1 2", "+3"] ∧
      (read ("GO,ON" ++ " " ++ ",".intercalate ["1 2", "+3"])).args = ["1 2", "+3"] ∧
      IsWord (read "\tREPORT ,").verb ∧ (read "\tREPORT ,").raw = "REPORT ," := by
  obtain ⟨-, himage, hfields, -, hloose, -⟩ := reading_inverts_writing
  have hcommas : ∀ p ∈ untidy, ',' ∉ p.toList := by
    have hall : (untidy.all fun p => !p.toList.elem ',') = true := by decide
    intro p hp
    simpa using List.all_eq_true.1 hall p hp
  have hblank (s : String) (h : (s.toList.all isBlank) = true) : ∀ c ∈ s.toList, isBlank c = true :=
    List.all_eq_true.1 h
  have htrimmed : ∀ a ∈ ["1 2", "+3"], IsField a := by
    simp only [List.forall_mem_cons]
    exact ⟨⟨by decide, by decide, by decide⟩, ⟨by decide, by decide, by decide⟩,
      List.forall_mem_nil _⟩
  obtain ⟨-, hread⟩ := hloose "\u2003\n" "GO,ON" untidy "\u0085 " isWord_goOn hcommas
    (hblank _ (by decide)) (hblank _ (by decide))
  obtain ⟨hword, -, hraw⟩ := himage "\tREPORT ," ⟨',', by decide, by decide⟩
  refine ⟨hread.trans (by decide), ?_, hword, hraw.trans (by decide)⟩
  exact (hfields "GO,ON" ["1 2", "+3"] isWord_goOn htrimmed).2

end Command

end TorusRobot
