/-
**Blank characters, trimming and splitting.**

A command line is cut at blank characters and at commas.  A character is blank when it has the
Unicode property White_Space; that is more than the characters blank in ASCII, and it excludes
look-alikes such as the zero-width space.

Main definitions:

* `TorusRobot.Text.isBlank` — the White_Space property;
* `TorusRobot.Text.trim` — a text without the blanks at its two ends;
* `TorusRobot.Text.breakAtBlank` — a text cut at its first blank;
* `TorusRobot.Text.pieces` — the pieces of a text between separators;
* `TorusRobot.Text.words` — the maximal runs of characters that are not blank.

Main results:

* `TorusRobot.Text.trim_eq_nil_iff` — only a blank text is empty when trimmed;
* `TorusRobot.Text.isBlank_of_trim` — a trimmed text starts with no blank;
* `TorusRobot.Text.pieces_ne_nil` — there is always at least one piece.
-/

set_option relaxedAutoImplicit false
set_option autoImplicit false

namespace TorusRobot.Text

/-! ### The property -/

/-- The code points with the property White_Space, as ranges with both ends included. -/
def blankRanges : List (Nat × Nat) :=
  [(0x0009, 0x000D), (0x0020, 0x0020), (0x0085, 0x0085), (0x00A0, 0x00A0), (0x1680, 0x1680),
   (0x2000, 0x200A), (0x2028, 0x2029), (0x202F, 0x202F), (0x205F, 0x205F), (0x3000, 0x3000)]

/-- A character is blank when it has the Unicode property White_Space. -/
def isBlank (c : Char) : Bool :=
  blankRanges.any fun r => r.1 ≤ c.toNat && c.toNat ≤ r.2

/-- A text of blank characters only. -/
def allBlank (s : List Char) : Bool := s.all isBlank

@[simp] theorem allBlank_nil : allBlank [] = true := rfl

/-! ### Trimming -/

/-- A text without the blanks at its start. -/
def trimStart (s : List Char) : List Char := s.dropWhile isBlank

/-- A text without the blanks at its end. -/
def trimEnd (s : List Char) : List Char := (s.reverse.dropWhile isBlank).reverse

/-- A text without the blanks at its two ends. -/
def trim (s : List Char) : List Char := trimEnd (trimStart s)

@[simp] theorem trim_nil : trim [] = [] := rfl

theorem trimStart_eq_nil_iff {s : List Char} : trimStart s = [] ↔ ∀ c ∈ s, isBlank c = true := by
  unfold trimStart
  induction s with
  | nil => simp
  | cons c s ih => cases h : isBlank c <;> simp [h, ih]

theorem trimEnd_eq_nil_iff {s : List Char} : trimEnd s = [] ↔ ∀ c ∈ s, isBlank c = true := by
  have h := trimStart_eq_nil_iff (s := s.reverse)
  simp only [List.mem_reverse] at h
  rw [← h, trimEnd, List.reverse_eq_nil_iff, trimStart]

/-- What is left of a text without the blanks at its start is empty or starts with no blank. -/
theorem isBlank_of_trimStart {s t : List Char} {c : Char} (h : trimStart s = c :: t) :
    isBlank c = false := by
  have hd := List.head?_dropWhile_not isBlank s
  rw [show s.dropWhile isBlank = c :: t from h] at hd
  simpa using hd

/-- Only a blank text is empty when trimmed. -/
theorem trim_eq_nil_iff {s : List Char} : trim s = [] ↔ allBlank s = true := by
  rw [trim, trimEnd_eq_nil_iff, allBlank, List.all_eq_true]
  constructor
  · intro h
    cases ht : trimStart s with
    | nil => exact trimStart_eq_nil_iff.1 ht
    | cons c t =>
        rw [ht] at h
        have hc := h c List.mem_cons_self
        rw [isBlank_of_trimStart ht] at hc
        cases hc
  · intro h
    have ht : trimStart s = [] := trimStart_eq_nil_iff.2 h
    simp [ht]

/-- Trimming the end of a text that starts with no blank keeps its first character. -/
theorem trimEnd_cons {c : Char} {s : List Char} (h : isBlank c = false) :
    trimEnd (c :: s) = c :: trimEnd s := by
  rw [trimEnd, trimEnd, List.reverse_cons, List.dropWhile_append]
  split
  · rename_i he
    rw [List.isEmpty_iff] at he
    simp [h, he]
  · simp

/-- A trimmed text starts with no blank. -/
theorem isBlank_of_trim {s t : List Char} {c : Char} (h : trim s = c :: t) :
    isBlank c = false := by
  rw [trim] at h
  cases ht : trimStart s with
  | nil => simp [ht, trimEnd] at h
  | cons d u =>
      have hd := isBlank_of_trimStart ht
      rw [ht, trimEnd_cons hd, List.cons.injEq] at h
      exact h.1 ▸ hd

/-! ### Cutting -/

/-- A text cut at its first blank, which belongs to neither part. -/
def breakAtBlank (s : List Char) : List Char × List Char :=
  (s.takeWhile fun c => !isBlank c, (s.dropWhile fun c => !isBlank c).drop 1)

/-- The pieces of a text between occurrences of `sep`; a text without `sep` is one piece. -/
def pieces (sep : Char) : List Char → List (List Char)
  | [] => [[]]
  | c :: s =>
    if c = sep then [] :: pieces sep s
    else match pieces sep s with
      | [] => [[c]]
      | p :: ps => (c :: p) :: ps

@[simp] theorem pieces_nil (sep : Char) : pieces sep [] = [[]] := rfl

/-- A text has at least one piece. -/
theorem pieces_ne_nil (sep : Char) (s : List Char) : pieces sep s ≠ [] := by
  cases s with
  | nil => simp
  | cons c s =>
      rw [pieces]
      split
      · simp
      · split <;> simp

/-- The words of a text when `word` holds the characters read of the current word, last first. -/
def wordsFrom (word : List Char) : List Char → List (List Char)
  | [] => if word.isEmpty then [] else [word.reverse]
  | c :: s =>
    if isBlank c then
      if word.isEmpty then wordsFrom [] s else word.reverse :: wordsFrom [] s
    else wordsFrom (c :: word) s

/-- The maximal runs of characters that are not blank, in order. -/
def words (s : List Char) : List (List Char) := wordsFrom [] s

end TorusRobot.Text
