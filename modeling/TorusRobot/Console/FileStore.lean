/-
**Files and the paths to them.**

The program works in a directory that holds files and no other directories.  A path is followed step
by step, from the working directory or, if it starts with a slash, from the root.  Of what lies
outside the working directory only this is known: the directories on the way up exist, and they hold
no files but those that the program has made there itself.

Main definitions:

* `TorusRobot.Console.Directory`, `TorusRobot.Console.Location` — directories, and names in them;
* `TorusRobot.Console.FileStore` — files by location;
* `TorusRobot.Console.FileStore.follow` — where the steps of a path lead;
* `TorusRobot.Console.FileStore.open?`, `TorusRobot.Console.FileStore.locate` — opening what is
  there, and finding the place for what is to be made;
* `TorusRobot.Console.PathFault` — why a path cannot be used.

Main results:

* `TorusRobot.Console.FileStore.open?_insert` — a file that was made can be opened.
-/
import TorusRobot.Text.Blank

set_option relaxedAutoImplicit false
set_option autoImplicit false

namespace TorusRobot.Console

/-! ### Faults -/

/-- Why a path cannot be used. -/
inductive PathFault where
  | missing
  | notDirectory
  | isDirectory
  /-- A step of the path, or the path as a whole, is too long. -/
  | tooLong
deriving DecidableEq, Repr

/-- The wording of a fault, with the number that the system has for it. -/
def PathFault.message : PathFault → String
  | missing => "No such file or directory (os error 2)"
  | notDirectory => "Not a directory (os error 20)"
  | isDirectory => "Is a directory (os error 21)"
  | tooLong => "File name too long (os error 36)"

/-- The greatest number of bytes in a step of a path. -/
def nameLimit : Nat := 255

/-- The greatest number of bytes in a path. -/
def pathLimit : Nat := 4095

/-! ### Places -/

/-- A directory. -/
inductive Directory where
  /-- The one so many levels above the working directory. -/
  | above (levels : Nat)
  | root
deriving DecidableEq, Repr

/-- The directory in which the program works. -/
def Directory.working : Directory := .above 0

/-- The directory one level up; the root is its own. -/
def Directory.parent : Directory → Directory
  | above levels => .above (levels + 1)
  | root => .root

/-- A name in a directory, whether there is a file of that name or not. -/
structure Location where
  directory : Directory
  name : String
deriving DecidableEq, Repr

/-- Where a path leads. -/
inductive Place where
  | directory (d : Directory)
  | entry (l : Location)
deriving DecidableEq, Repr

/-! ### Paths -/

/-- A path that was cut into its steps. -/
structure Path where
  start : Directory
  /-- The steps, none of them empty. -/
  steps : List String
  /-- Whether a slash comes after the last step, so that only a directory can be meant. -/
  slashed : Bool
deriving DecidableEq, Repr

/-- A text as a path.  Slashes in a row count as one. -/
def Path.ofString (path : String) : Path :=
  let cs := path.toList
  { start := if cs.head? = some '/' then .root else .working
    steps := ((Text.pieces '/' cs).filter fun step => !step.isEmpty).map String.ofList
    slashed := cs.getLast? = some '/' }

/-- The steps to what is to be opened: with a slash at the end it must be a directory. -/
def Path.stepsToOpen (p : Path) : List String := if p.slashed then p.steps ++ ["."] else p.steps

/-- The steps to what is to be made.  With a slash at the end the last step is not looked at, only
the way to it, and no file can be made. -/
def Path.stepsToMake (p : Path) : List String :=
  if p.slashed then p.steps.dropLast ++ ["."] else p.steps

/-! ### Files -/

/-- Files, each with its bytes; of two at one location the first counts. -/
structure FileStore where
  files : List (Location × List UInt8) := []
deriving DecidableEq, Repr

/-- What opening a path brings. -/
inductive Opened where
  | file (bytes : List UInt8)
  | directory
deriving DecidableEq, Repr

namespace FileStore

/-- The files with given names in the working directory. -/
def ofFiles (files : List (String × List UInt8)) : FileStore :=
  ⟨files.map fun f => (⟨.working, f.1⟩, f.2)⟩

/-- The bytes of the file at a location. -/
def get? (s : FileStore) (l : Location) : Option (List UInt8) :=
  (s.files.find? fun f => f.1 = l).map Prod.snd

/-- The files together with one at a location, which replaces the one there was. -/
def insert (s : FileStore) (l : Location) (bytes : List UInt8) : FileStore :=
  ⟨(l, bytes) :: s.files⟩

@[simp] theorem get?_insert (s : FileStore) (l : Location) (bytes : List UInt8) :
    (s.insert l bytes).get? l = some bytes := by
  simp [get?, insert]

/-! ### Following a path -/

/-- Where steps lead from a place, or the first thing that is wrong with them. -/
def follow (s : FileStore) : Place → List String → Except PathFault Place
  | p, [] => .ok p
  | .entry l, _ :: _ => .error (if (s.get? l).isSome then .notDirectory else .missing)
  | .directory d, step :: steps =>
    if step = "." then s.follow (.directory d) steps
    else if step = ".." then s.follow (.directory d.parent) steps
    else if nameLimit < step.utf8ByteSize then .error .tooLong
    else s.follow (.entry ⟨d, step⟩) steps

/-- Where a path leads on which something is to be opened. -/
def find (s : FileStore) (path : String) : Except PathFault Place :=
  if pathLimit < path.utf8ByteSize then .error .tooLong
  else s.follow (.directory (Path.ofString path).start) (Path.ofString path).stepsToOpen

/-- What is at a path. -/
def open? (s : FileStore) (path : String) : Except PathFault Opened :=
  match s.find path with
  | .error fault => .error fault
  | .ok (.directory _) => .ok .directory
  | .ok (.entry l) =>
    match s.get? l with
    | some bytes => .ok (.file bytes)
    | none => .error .missing

/-- The location of a file that is to be made at a path. -/
def locate (s : FileStore) (path : String) : Except PathFault Location :=
  if pathLimit < path.utf8ByteSize then .error .tooLong
  else
    match s.follow (.directory (Path.ofString path).start) (Path.ofString path).stepsToMake with
    | .error fault => .error fault
    | .ok (.directory _) => .error .isDirectory
    | .ok (.entry l) => .ok l

/-! ### Making a file, then opening it -/

/-- The files there are decide only which fault a path has. -/
theorem follow_eq_ok {s t : FileStore} {p q : Place} {steps : List String}
    (h : s.follow p steps = .ok q) : t.follow p steps = .ok q := by
  fun_induction follow s p steps with
  | case1 p => simpa [follow] using h
  | case2 l step steps => simp at h
  | case3 d steps ih => rw [follow, if_pos rfl, ih h]
  | case4 d steps hd ih => rw [follow, if_neg hd, if_pos rfl, ih h]
  | case5 d step steps hd hp hl => simp at h
  | case6 d step steps hd hp hl ih => rw [follow, if_neg hd, if_neg hp, if_neg hl, ih h]

/-- A path that ends at `.` leads to no name. -/
theorem follow_append_dot_ne_entry (s : FileStore) (p : Place) (steps : List String)
    (l : Location) : s.follow p (steps ++ ["."]) ≠ .ok (.entry l) := by
  fun_induction follow s p steps with
  | case1 p => cases p <;> simp [follow]
  | case2 l' step steps => simp [follow]
  | case3 d steps ih => simpa [follow] using ih
  | case4 d steps hd ih => simpa [follow] using ih
  | case5 d step steps hd hp hl => simp [follow, hd, hp, hl]
  | case6 d step steps hd hp hl ih => simpa [follow, hd, hp, hl] using ih

/-- A file that was made at a path can be opened there. -/
theorem open?_insert {s : FileStore} {path : String} {l : Location} (bytes : List UInt8)
    (h : s.locate path = .ok l) : (s.insert l bytes).open? path = .ok (.file bytes) := by
  unfold locate at h
  split at h
  · simp at h
  · rename_i hlimit
    split at h
    · simp at h
    · simp at h
    · rename_i l' hf
      simp only [Except.ok.injEq] at h
      subst h
      have hs : (Path.ofString path).stepsToMake = (Path.ofString path).stepsToOpen := by
        unfold Path.stepsToMake Path.stepsToOpen
        split
        · rename_i hs
          rw [Path.stepsToMake, if_pos hs] at hf
          exact absurd hf (follow_append_dot_ne_entry s _ _ l')
        · rfl
      have hfind : (s.insert l' bytes).find path = .ok (.entry l') := by
        rw [find, if_neg hlimit, ← hs]
        exact follow_eq_ok hf
      simp [open?, hfind]

end FileStore

end TorusRobot.Console
