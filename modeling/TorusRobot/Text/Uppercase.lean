/-
**Upper-casing a text.**

Every character is replaced by its full upper case, independently of its neighbours and of any
language: `ß` becomes `SS`, a dotless `ı` becomes `I`, and so on.

Main definitions:

* `TorusRobot.Text.Uppercase.runOf?`, `TorusRobot.Text.Uppercase.expansionOf?` — the entry of a
  table that holds a code point;
* `TorusRobot.Text.Uppercase.codes` — the code points of a code point's upper case;
* `TorusRobot.Text.Uppercase.ofChar` — a character's upper case;
* `TorusRobot.Text.uppercase` — a text's upper case.

Main results:

* `TorusRobot.Text.Uppercase.lookup_eq_find?` — the tables need not be searched to their ends.
-/
import TorusRobot.Text.Uppercase.Table

set_option relaxedAutoImplicit false
set_option autoImplicit false

namespace TorusRobot.Text

/-! ### One character -/

/-- The first entry of a table that holds a code point.  The table is in ascending order of `start`,
the least code point that an entry can hold, so the search ends at the first entry that starts
after `n`. -/
@[specialize] def Uppercase.lookup {α : Type} (start : α → Nat) (holds : α → Bool) (n : Nat) :
    List α → Option α
  | [] => none
  | a :: as =>
    if n < start a then none
    else if holds a then some a
    else lookup start holds n as

/-- In a table in ascending order, the search that ends early finds what a full search finds. -/
theorem Uppercase.lookup_eq_find? {α : Type} {start : α → Nat} {holds : α → Bool} {n : Nat}
    {as : List α} (hs : (as.map start).Pairwise fun n m => n ≤ m)
    (hn : ∀ a, holds a = true → start a ≤ n) : lookup start holds n as = as.find? holds := by
  induction as with
  | nil => rfl
  | cons a as ih =>
      rw [List.map_cons, List.pairwise_cons] at hs
      rw [lookup, ih hs.2]
      split
      · rename_i ha
        refine (List.find?_eq_none.2 fun b hb h => ?_).symm
        have hb' := hn b h
        rcases List.mem_cons.1 hb with rfl | hb
        · omega
        · have hab := hs.1 (start b) (List.mem_map_of_mem hb)
          omega
      · rw [List.find?_cons]
        cases holds a <;> rfl

/-- The run that holds code point `n`. -/
def Uppercase.runOf? (n : Nat) : Option Run := lookup Run.first (fun r => r.covers n) n runs

/-- The expansion of code point `n`. -/
def Uppercase.expansionOf? (n : Nat) : Option (Nat × List Nat) :=
  lookup Prod.fst (fun e => e.1 == n) n expansions

theorem Uppercase.runOf?_eq_find? (n : Nat) : runOf? n = runs.find? fun r => r.covers n :=
  lookup_eq_find? pairwise_runs fun r h => by simp_all [Run.covers]

theorem Uppercase.expansionOf?_eq_find? (n : Nat) :
    expansionOf? n = expansions.find? fun e => e.1 == n :=
  lookup_eq_find? pairwise_expansions fun _ h => Nat.le_of_eq (beq_iff_eq.1 h)

/-- The code points of the upper case of code point `n`. -/
def Uppercase.codes (n : Nat) : List Nat :=
  match Uppercase.runOf? n with
  | some r => [r.shift n]
  | none =>
    match Uppercase.expansionOf? n with
    | some e => e.2
    | none => [n]

/-- The upper case of a character. -/
def Uppercase.ofChar (c : Char) : List Char := (Uppercase.codes c.toNat).map Char.ofNat

/-! ### A text -/

/-- The upper case of a text. -/
def uppercase (s : List Char) : List Char := s.flatMap Uppercase.ofChar

@[simp] theorem uppercase_nil : uppercase [] = [] := rfl

@[simp] theorem uppercase_cons (c : Char) (s : List Char) :
    uppercase (c :: s) = Uppercase.ofChar c ++ uppercase s := rfl

end TorusRobot.Text
