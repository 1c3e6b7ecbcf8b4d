/-
**Queues.**

Elements join a queue at its back and leave at its front.  A queue is kept in two lists, the second
one back to front, so that both of its ends are at hand; it holds the first list followed by the
reverse of the second.  Its size is kept along and need not be counted.

Main definitions:

* `TorusRobot.Queue`, `TorusRobot.Queue.toList` — a queue, and what it holds;
* `TorusRobot.Queue.push` — joining at the back;
* `TorusRobot.Queue.pop?`, `TorusRobot.Queue.splitAt` — leaving at the front;
* `TorusRobot.Queue.pushWithin` — joining a queue that must not outgrow a capacity;
* `TorusRobot.Queue.filter` — keeping some of the elements.

Main results:

* `TorusRobot.Queue.size_eq_length` — the size is the number of elements;
* `TorusRobot.Queue.toList_push`, `TorusRobot.Queue.splitAt_fst`,
  `TorusRobot.Queue.toList_splitAt_snd`, `TorusRobot.Queue.toList_pushWithin`,
  `TorusRobot.Queue.toList_filter` — what the operations do to the list of the elements.
-/

set_option relaxedAutoImplicit false
set_option autoImplicit false

namespace TorusRobot

/-- A queue. -/
structure Queue (α : Type) where
  /-- The elements near the front, the front one first. -/
  front : List α
  /-- The elements near the back, the back one first. -/
  back : List α
  size : Nat
  size_eq : size = front.length + back.length
deriving DecidableEq, Repr

namespace Queue

variable {α : Type}

/-- The queue that holds nothing. -/
def empty : Queue α := ⟨[], [], 0, rfl⟩

/-- What a queue holds, front first. -/
def toList (q : Queue α) : List α := q.front ++ q.back.reverse

@[simp] theorem toList_empty : (empty : Queue α).toList = [] := rfl

/-- The size is the number of elements. -/
theorem size_eq_length (q : Queue α) : q.size = q.toList.length := by
  simp [toList, q.size_eq]

/-! ### Joining -/

/-- An element joins at the back. -/
def push (q : Queue α) (a : α) : Queue α where
  front := q.front
  back := a :: q.back
  size := q.size + 1
  size_eq := by rw [q.size_eq, List.length_cons, Nat.add_assoc]

@[simp] theorem toList_push (q : Queue α) (a : α) : (q.push a).toList = q.toList ++ [a] := by
  simp [toList, push]

/-! ### Leaving -/

/-- The element at the front, and the queue without it. -/
def pop? (q : Queue α) : Option (α × Queue α) :=
  match hf : q.front with
  | a :: front =>
    some (a, ⟨front, q.back, q.size - 1, by simp [q.size_eq, hf]⟩)
  | [] =>
    -- The front list has run out, so the back one is turned around and takes its place.
    match hb : q.back.reverse with
    | [] => none
    | a :: front =>
      some (a, ⟨front, [], q.size - 1, by
        have h := congrArg List.length hb
        simp_all [q.size_eq]⟩)

/-- A queue without a front is empty. -/
theorem toList_of_pop?_eq_none {q : Queue α} (h : q.pop? = none) : q.toList = [] := by
  unfold pop? at h
  split at h
  · cases h
  · rename_i hf
    split at h
    · rename_i hb
      rw [toList, hf, hb, List.append_nil]
    · cases h

/-- The element at the front is the first one. -/
theorem toList_of_pop?_eq_some {q r : Queue α} {a : α} (h : q.pop? = some (a, r)) :
    q.toList = a :: r.toList := by
  unfold pop? at h
  split at h
  · rename_i hf
    cases h
    simp [toList, hf]
  · rename_i hf
    split at h
    · cases h
    · rename_i hb
      cases h
      simp [toList, hf, hb]

/-- The first `n` elements, or all if there are fewer, and the queue without them. -/
def splitAt : Nat → Queue α → List α × Queue α
  | 0, q => ([], q)
  | n + 1, q =>
    match q.pop? with
    | none => ([], q)
    | some (a, rest) =>
      let (gone, kept) := splitAt n rest
      (a :: gone, kept)

@[simp] theorem splitAt_fst (n : Nat) (q : Queue α) : (splitAt n q).1 = q.toList.take n := by
  fun_induction splitAt n q with
  | case1 q => rfl
  | case2 n q h => rw [toList_of_pop?_eq_none h, List.take_nil]
  | case3 n q a rest h gone kept hs ih =>
      rw [toList_of_pop?_eq_some h, List.take_succ_cons, ← ih, hs]

@[simp] theorem toList_splitAt_snd (n : Nat) (q : Queue α) :
    (splitAt n q).2.toList = q.toList.drop n := by
  fun_induction splitAt n q with
  | case1 q => rfl
  | case2 n q h => rw [toList_of_pop?_eq_none h, List.drop_nil]
  | case3 n q a rest h gone kept hs ih =>
      rw [toList_of_pop?_eq_some h, List.drop_succ_cons, ← ih, hs]

/-! ### Keeping within a capacity -/

/-- An element joins at the back, and as many leave at the front as are too many for `capacity`;
these are told, front first.  The element that joins stays in any case. -/
def pushWithin (capacity : Nat) (q : Queue α) (a : α) : Queue α × List α :=
  let (gone, kept) := q.splitAt (q.size + 1 - capacity)
  (kept.push a, gone)

@[simp] theorem toList_pushWithin (capacity : Nat) (q : Queue α) (a : α) :
    (q.pushWithin capacity a).1.toList =
      q.toList.drop (q.toList.length + 1 - capacity) ++ [a] := by
  simp [pushWithin, size_eq_length]

@[simp] theorem pushWithin_snd (capacity : Nat) (q : Queue α) (a : α) :
    (q.pushWithin capacity a).2 = q.toList.take (q.toList.length + 1 - capacity) := by
  simp [pushWithin, size_eq_length]

/-! ### Keeping some -/

/-- The queue of the elements with a property, in the same order. -/
def filter (p : α → Bool) (q : Queue α) : Queue α where
  front := q.front.filter p
  back := q.back.filter p
  size := (q.front.filter p).length + (q.back.filter p).length
  size_eq := rfl

@[simp] theorem toList_filter (p : α → Bool) (q : Queue α) :
    (q.filter p).toList = q.toList.filter p := by
  simp [toList, filter]

/-- A queue all of whose elements are kept stays as it is. -/
theorem filter_eq_self {p : α → Bool} {q : Queue α}
    (h : ∀ a ∈ q.toList, p a = true) : q.filter p = q := by
  obtain ⟨front, back, size, hsize⟩ := q
  have hfront : front.filter p = front :=
    List.filter_eq_self.2 fun a ha => h a (List.mem_append_left _ ha)
  have hback : back.filter p = back :=
    List.filter_eq_self.2 fun a ha => h a (List.mem_append_right _ (List.mem_reverse.2 ha))
  simp [filter, hfront, hback, hsize]

end Queue

end TorusRobot
