/-
**The tray of notices.**

The tray shows the notices most recently put there, each until its deadline.  Notices are numbered
from one, and no number is used twice.  Nothing here reads a clock: whoever uses the tray says
what time it is, in milliseconds, and the times need not grow.

Main definitions:

* `TorusRobot.Tray` — the notices on show, the capacity and the next number;
* `TorusRobot.Tray.active` — the notices on show, oldest first;
* `TorusRobot.Tray.push` — putting a notice there, at the cost of the oldest if the tray is full;
* `TorusRobot.Tray.dismiss`, `TorusRobot.Tray.expire`, `TorusRobot.Tray.clear` — taking notices
  away;
* `TorusRobot.Tray.nextDeadline?` — the earliest deadline.

Main results:

* `TorusRobot.Tray.active_push`, `TorusRobot.Tray.evicted_push` — a notice takes the place of the
  oldest ones that are too many;
* `TorusRobot.Tray.active_dismiss`, `TorusRobot.Tray.active_expire` — which notices stay on show.
-/
import TorusRobot.Outcome.Basic
import TorusRobot.Session.Queue

set_option relaxedAutoImplicit false
set_option autoImplicit false

namespace TorusRobot

/-- A notice on show. -/
structure Tray.Entry where
  id : Nat
  notice : Notice
  /-- When it is to go. -/
  deadline : Nat
deriving DecidableEq, Repr

/-- The notices on show. -/
structure Tray where
  capacity : Nat
  /-- The lifetime of a notice that asks for none. -/
  lifetime : Nat
  /-- The notices; the oldest is in front. -/
  onShow : Queue Tray.Entry := .empty
  nextId : Nat := 1
deriving DecidableEq, Repr

namespace Tray

/-- The empty tray of a capacity, which is raised to one if need be. -/
def ofCapacity (capacity lifetime : Nat) : Tray :=
  { capacity := max capacity 1, lifetime := lifetime }

/-- The notices on show, oldest first. -/
def active (t : Tray) : List Entry := t.onShow.toList

/-! ### Putting notices there -/

/-- What putting a notice in the tray has done. -/
structure Pushed where
  tray : Tray
  id : Nat
  /-- The numbers of the notices that had to go, oldest first. -/
  evicted : List Nat
deriving DecidableEq, Repr

/-- When a notice put in the tray at time `now` is to go. -/
def deadline (t : Tray) (notice : Notice) (now : Nat) : Nat :=
  now + notice.lifetime.getD t.lifetime

/-- A notice is put in the tray at time `now`. -/
def push (t : Tray) (notice : Notice) (now : Nat) : Pushed :=
  -- The oldest notices go first, even if others would be due earlier.
  let (onShow, gone) := t.onShow.pushWithin t.capacity ⟨t.nextId, notice, t.deadline notice now⟩
  { tray := { t with onShow := onShow, nextId := t.nextId + 1 }
    id := t.nextId
    evicted := gone.map Entry.id }

@[simp] theorem id_push (t : Tray) (notice : Notice) (now : Nat) :
    (t.push notice now).id = t.nextId := rfl

@[simp] theorem nextId_push (t : Tray) (notice : Notice) (now : Nat) :
    (t.push notice now).tray.nextId = t.nextId + 1 := rfl

/-- The notice joins those on show, and the oldest ones go that are too many for the capacity. -/
@[simp] theorem active_push (t : Tray) (notice : Notice) (now : Nat) :
    (t.push notice now).tray.active =
      t.active.drop (t.active.length + 1 - t.capacity) ++
        [⟨t.nextId, notice, t.deadline notice now⟩] :=
  Queue.toList_pushWithin t.capacity t.onShow ⟨t.nextId, notice, t.deadline notice now⟩

/-- The numbers of those that go are told. -/
@[simp] theorem evicted_push (t : Tray) (notice : Notice) (now : Nat) :
    (t.push notice now).evicted =
      (t.active.take (t.active.length + 1 - t.capacity)).map Entry.id :=
  congrArg (List.map Entry.id)
    (Queue.pushWithin_snd t.capacity t.onShow ⟨t.nextId, notice, t.deadline notice now⟩)

/-! ### Looking -/

/-- The notice on show with a given number. -/
def get? (t : Tray) (id : Nat) : Option Entry := t.active.find? fun e => e.id = id

/-- The notice put there last, if it is still on show. -/
def newest? (t : Tray) : Option Entry := t.active.getLast?

/-- The earliest deadline of a notice on show. -/
def nextDeadline? (t : Tray) : Option Nat := (t.active.map Entry.deadline).min?

/-! ### Taking notices away -/

/-- The notice with a given number is taken away; the flag tells whether it was on show. -/
def dismiss (t : Tray) (id : Nat) : Tray × Bool :=
  ({ t with onShow := t.onShow.filter fun e => e.id != id }, t.active.any fun e => e.id == id)

/-- The notices whose deadline has come are taken away, and their numbers are told in order. -/
def expire (t : Tray) (now : Nat) : Tray × List Nat :=
  ({ t with onShow := t.onShow.filter fun e => !decide (e.deadline ≤ now) },
    (t.active.filter fun e => decide (e.deadline ≤ now)).map Entry.id)

/-- Every notice is taken away; the numbers go on. -/
def clear (t : Tray) : Tray := { t with onShow := .empty }

/-- The notices with other numbers stay on show. -/
@[simp] theorem active_dismiss (t : Tray) (id : Nat) :
    (t.dismiss id).1.active = t.active.filter fun e => e.id != id :=
  Queue.toList_filter _ t.onShow

/-- The notices stay on show whose deadline is still to come. -/
@[simp] theorem active_expire (t : Tray) (now : Nat) :
    (t.expire now).1.active = t.active.filter fun e => !decide (e.deadline ≤ now) :=
  Queue.toList_filter _ t.onShow

@[simp] theorem active_clear (t : Tray) : t.clear.active = [] := rfl

end Tray

end TorusRobot
