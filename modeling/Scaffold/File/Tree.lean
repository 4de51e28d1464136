import Scaffold.File.Path

/-!
This module contains trees of files and directories, and what happens when a file is read or
written, directories are made or a path is looked up in them.

Paths start at the root, which is the directory the program works in. The root is its own parent.
What stands at one place is seen through `FileTree.get?`; `FileTree.set` changes it there and
nowhere else.
-/

namespace Scaffold

abbrev Location := List Text

inductive Entry where
  | directory
  | file (content : Bytes)
  deriving DecidableEq, Repr

inductive FileFault where
  | notFound
  | alreadyExists
  | notADirectory
  | isADirectory
  | other (reason : Text)
  deriving DecidableEq, Repr

/--
A directory with all that is in it: one file or one directory at a time. If several of them have the
same name, the first one counts.
-/
inductive FileTree where
  | empty
  | file (name : Text) (content : Bytes) (others : FileTree)
  | directory (name : Text) (inside : FileTree) (others : FileTree)
  deriving DecidableEq, Repr

namespace FileTree

def get? : FileTree → Location → Option Entry
  | _, [] => some .directory
  | empty, _ :: _ => none
  | file n bytes others, s :: l =>
    if n = s then if l = [] then some (.file bytes) else none
    else others.get? (s :: l)
  | directory n inside others, s :: l =>
    if n = s then inside.get? l else others.get? (s :: l)

def insert (s : Text) (others : FileTree) : Entry → FileTree
  | .directory => directory s empty others
  | .file bytes => file s bytes others

/--
The tree in which something stands at a place. Nothing is put where there is no directory to put it
into, and a directory is not replaced.
-/
def set : FileTree → Location → Entry → FileTree
  | t, [], _ => t
  | empty, s :: l, e => if l = [] then empty.insert s e else empty
  | file n bytes others, s :: l, e =>
    if n = s then if l = [] then others.insert s e else file n bytes others
    else file n bytes (others.set (s :: l) e)
  | directory n inside others, s :: l, e =>
    if n = s then directory n (inside.set l e) others
    else directory n inside (others.set (s :: l) e)

@[simp]
theorem get?_nil (t : FileTree) : t.get? [] = some .directory := by
  cases t <;> rfl

@[simp]
theorem get?_empty_cons (s : Text) (l : Location) : empty.get? (s :: l) = none := rfl

theorem get?_insert_of_ne {t : FileTree} {s r : Text} {l : Location} {e : Entry}
    (h : r :: l ≠ [s])
    : (t.insert s e).get? (r :: l) = if s = r then none else t.get? (r :: l) := by
  by_cases hr : s = r
  . subst hr
    cases l with
    | nil => simp at h
    | cons => cases e <;> simp [insert, get?]
  . cases e <;> simp [insert, get?, hr]

theorem get?_set_of_ne {t : FileTree} {l k : Location} {e : Entry} (h : k ≠ l)
    : (t.set l e).get? k = t.get? k := by
  fun_induction set t l e generalizing k with
  | case1 => rfl
  | case2 s e =>
    cases k with
    | nil => simp
    | cons r k => simp [get?_insert_of_ne h]
  | case3 => rfl
  | case4 bytes others s e =>
    cases k with
    | nil => simp
    | cons r k =>
      rw [get?_insert_of_ne h]
      by_cases hr : s = r
      . subst hr
        simp_all [get?]
      . simp [get?, hr]
  | case5 => rfl
  | case6 n bytes others s l e hn ih =>
    cases k with
    | nil => simp
    | cons r k => simp [get?, ih h]
  | case7 inside others s l e ih =>
    cases k with
    | nil => simp
    | cons r k =>
      by_cases hr : s = r
      . subst hr
        simp only [get?, ite_true]
        exact ih (by simpa using h)
      . simp [get?, hr]
  | case8 n inside others s l e hn ih =>
    cases k with
    | nil => simp
    | cons r k => simp [get?, ih h]

theorem get?_insert_self (t : FileTree) (s : Text) (e : Entry)
    : (t.insert s e).get? [s] = some e := by
  cases e <;> simp [insert, get?]

theorem get?_set_self {t : FileTree} {l : Location} {s : Text} {e : Entry}
    (hdir : t.get? l = some .directory) (hfree : t.get? (l ++ [s]) ≠ some .directory)
    : (t.set (l ++ [s]) e).get? (l ++ [s]) = some e := by
  induction l generalizing t with
  | nil =>
    induction t with
    | empty => exact get?_insert_self empty s e
    | file n bytes others ih =>
      by_cases hn : n = s
      . simp [set, hn, get?_insert_self]
      . simp_all [set, get?]
    | directory n inside others _ ih =>
      by_cases hn : n = s
      . simp_all [get?]
      . simp_all [set, get?]
  | cons r l ihl =>
    induction t with
    | empty => simp at hdir
    | file n bytes others ih =>
      by_cases hn : n = r
      . simp_all [get?]
      . simp_all [set, get?]
    | directory n inside others _ ih =>
      by_cases hn : n = r
      . simp_all [set, get?]
      . simp_all [set, get?]

def content? (t : FileTree) (l : Location) : Option Bytes :=
  match t.get? l with
  | some (.file bytes) => some bytes
  | _ => none

def step (t : FileTree) (l : Location) (s : Text) : Except FileFault Location :=
  match t.get? l with
  | some .directory =>
    if s = ['.'] then .ok l
    else if s = ['.', '.'] then .ok l.dropLast
    else if (t.get? (l ++ [s])).isSome then .ok (l ++ [s])
    else .error .notFound
  | some (.file _) => .error .notADirectory
  | none => .error .notFound

def walk (t : FileTree) (l : Location) : List Text → Except FileFault Location
  | [] => .ok l
  | s :: ss => do
    let l ← t.step l s
    t.walk l ss

def locate (t : FileTree) (p : Path) : Except FileFault Location :=
  if p.isEmpty then .error .notFound
  else do
    let l ← t.walk [] p.steps
    match t.get? l, p.endsInSlash with
    | some (.file _), true => .error .notADirectory
    | _, _ => .ok l

/--
The directory in which the last step of a path is taken, and that step, unless it leads up or
nowhere.
-/
def locateLast (t : FileTree) (p : Path) : Except FileFault (Location × Option Text) :=
  if p.isEmpty then .error .notFound
  else do
    let dir ← t.walk [] p.steps.dropLast
    match t.get? dir with
    | some .directory =>
      match p.steps.getLast? with
      | none => .ok (dir, none)
      | some s => if s = ['.'] ∨ s = ['.', '.'] then .ok (dir, none) else .ok (dir, some s)
    | some (.file _) => .error .notADirectory
    | none => .error .notFound

def isPresent (t : FileTree) (p : Path) : Bool :=
  (t.locate p).isOk

def read (t : FileTree) (p : Path) : Except FileFault Bytes := do
  let l ← t.locate p
  match t.get? l with
  | some (.file bytes) => .ok bytes
  | some .directory => .error .isADirectory
  | none => .error .notFound

def write (t : FileTree) (p : Path) (content : Bytes) : Except FileFault FileTree := do
  match ← t.locateLast p with
  | (_, none) => .error .isADirectory
  | (dir, some s) =>
    if p.endsInSlash ∨ t.get? (dir ++ [s]) = some .directory then .error .isADirectory
    else .ok (t.set (dir ++ [s]) (.file content))

/--
Take steps from a directory, and make a directory for each that leads nowhere. A file cannot be
stepped on. The tree is given back even then, with the directories that were made before.
-/
def pave (t : FileTree) (l : Location) : List Text → FileTree × Except FileFault Location
  | [] => (t, .ok l)
  | s :: ss =>
    match t.step l s with
    | .ok k =>
      if t.get? k = some .directory then t.pave k ss else (t, .error .alreadyExists)
    | .error .notFound => (t.set (l ++ [s]) .directory).pave (l ++ [s]) ss
    | .error f => (t, .error f)

/--
Make all directories on the way that a path takes which are missing. A file on the way is noticed
before anything is made, unless a step in front of it leads nowhere. If the path ends in dots, the
directory named last in front of them is not made: it has to be there once the way to it is.
-/
def makeDirectories (t : FileTree) (p : Path) : FileTree × Except FileFault Unit :=
  match t.walk [] p.steps with
  | .error .notADirectory => (t, .error .notADirectory)
  | _ =>
    let (way, goal) := p.wayAndGoal
    match t.pave [] way with
    | (t, .ok l) => (t, (t.walk l goal).map fun _ => ())
    | (t, .error f) => (t, .error f)

def files : FileTree → List (Path × Bytes)
  | empty => []
  | file n bytes others => (n, bytes) :: others.files
  | directory n inside others =>
    inside.files.map (fun (p, bytes) => (n ++ '/' :: p, bytes)) ++ others.files

def listing (t : FileTree) : List (Path × Bytes) :=
  t.files.mergeSort fun a b => !List.lex b.1 a.1 fun c d => c.toNat.blt d.toNat

end FileTree

end Scaffold
