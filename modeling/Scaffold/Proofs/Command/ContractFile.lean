import Scaffold.Proofs.Command.Failure

/-!
This module contains what becomes of files when contracts are written, one after the other: which
file a contract is left in, which files it takes the place of, and that none is lost unless one of
the contracts was written by force.
-/

namespace Scaffold

open FileTree

open Simulation

namespace Path

theorem steps_append_slash (p q : Path) : steps (p ++ '/' :: q) = steps p ++ steps q := by
  unfold steps segments
  rw [Text.splitWhen_append_cons (by decide), List.filter_append]

section Name

variable {name : Text} (hslash : '/' ∉ name) (hne : name ≠ [])

include hslash hne

theorem steps_name : steps name = [name] := by
  have hsegments : segments name = [name] := by
    apply Text.splitWhen_eq_singleton
    intro c hc
    rw [decide_eq_false_iff_not]
    intro heq
    subst heq
    exact hslash hc
  unfold steps
  rw [hsegments, List.filter_cons_of_pos]
  . rfl
  . simp [hne]

theorem steps_join (dir : Path) : steps (join dir name) = steps dir ++ [name] := by
  unfold join
  rw [if_neg]
  . split
    . next h =>
      rcases h with hempty | hlast
      . rw [List.isEmpty_iff] at hempty
        subst hempty
        exact steps_name hslash hne
      . rcases List.getLast?_eq_some_iff.1 hlast with ⟨p, rfl⟩
        -- Behind a slash at the end there is an empty segment, which is no step.
        rw [List.append_assoc, List.cons_append, List.nil_append]
        rw [steps_append_slash, steps_append_slash, steps_name hslash hne]
        rw [show steps [] = [] from rfl, List.append_nil]
    . rw [steps_append_slash, steps_name hslash hne]
  . intro hhead
    exact hslash (List.mem_of_head? hhead)

end Name

end Path

section

variable {dir p : Path} {name source : Text} {force : Bool} {w w' : World}

theorem exists_of_writeContractFile
    (h : (writeContractFile dir name source force : Simulation Path) w = .ok p w')
    : p = Path.join dir (name ++ ".sol") ∧
        ∃ t t', w.files.makeDirectories dir = (t, .ok ()) ∧
          (force = false → t.isPresent p = false) ∧
          t.write p (Utf8.encode source) = .ok t' ∧ w' = { w with files := t' } := by
  unfold writeContractFile at h
  rw [bind_of_ok (makeDirectories_eq dir w), bind_eq_ok_iff] at h
  rcases h with ⟨u, v, hdir, h⟩
  rw [orFail_eq_ok_iff] at hdir
  rcases hdir with ⟨hdir, rfl⟩
  rw [bind_of_ok (isPresent_eq _ _)] at h
  dsimp only at h
  split at h
  . rw [bind_eq_ok_iff] at h
    rcases h with ⟨x, y, hthrow, -⟩
    cases hthrow
  . next hfree =>
    rw [← bind_assoc, bind_eq_ok_iff] at h
    rcases h with ⟨x, y, hwrite, hp⟩
    cases hp
    rcases writeFile_bind_orFail_eq_ok_iff.1 hwrite with ⟨t', hwrite, hw⟩
    refine ⟨rfl, _, t', ?_, ?_, hwrite, hw.symm⟩
    . rw [← hdir]
    . intro hforce
      simpa [hforce] using hfree

theorem stores_of_writeContractFile
    (h : (writeContractFile dir name source force : Simulation Path) w = .ok p w')
    : Stores w.files w'.files p (Utf8.encode source) := by
  rcases exists_of_writeContractFile h with ⟨-, t, t', hdir, -, hwrite, rfl⟩
  exact (sameFiles_of_makeDirectories hdir).stores (stores_of_write hwrite)

theorem extends_of_writeContractFile
    (h : (writeContractFile dir name source force : Simulation Path) w = .ok p w')
    : Extends w.files w'.files := by
  rcases exists_of_writeContractFile h with ⟨-, t, t', hdir, -, hwrite, rfl⟩
  exact (sameFiles_of_makeDirectories hdir).extends.trans (extends_of_write hwrite)

/--
Without force a contract takes the place of nothing, whichever paths lead there.
-/
theorem get?_eq_none_of_writeContractFile {l : Location}
    (h : (writeContractFile dir name source false : Simulation Path) w = .ok p w')
    (hl : w'.files.locate p = .ok l)
    : w.files.get? l = none := by
  rcases exists_of_writeContractFile h with ⟨-, t, t', hdir, hfree, hwrite, rfl⟩
  apply (sameFiles_of_makeDirectories hdir).extends.get?_eq_none
  exact get?_eq_none_of_write hwrite (hfree rfl) hl

theorem locate_of_writeContractFile (hname : '/' ∉ name)
    (h : (writeContractFile dir name source force : Simulation Path) w = .ok p w')
    : ∃ place, w'.files.walk [] (Path.steps dir) = .ok place ∧
        w'.files.get? place = some .directory ∧
        w'.files.locate p = .ok (place ++ [name ++ ".sol".toList]) := by
  rcases exists_of_writeContractFile h with ⟨rfl, t, t', -, -, hwrite, rfl⟩
  have hextends := extends_of_write hwrite
  rcases exists_of_write hwrite with ⟨place, s, hleads, -, hlocate, -, -⟩
  have hsteps := hleads.steps_eq
  have hwalk := hleads.walk_eq
  have hfile : '/' ∉ name ++ ".sol".toList := by
    rw [List.mem_append, not_or]
    exact ⟨hname, by decide⟩
  have hne : name ++ ".sol".toList ≠ [] :=
    List.append_ne_nil_of_right_ne_nil _ (by decide)
  rw [Path.steps_join hfile hne, List.dropLast_concat] at hsteps hwalk
  cases List.append_cancel_left hsteps
  exact ⟨place, hextends.walk hwalk, hextends.directory place hleads.get?_eq, hlocate⟩

end

structure Delivery where
  outDir : Path
  name : Text
  source : Text
  force : Bool
  deriving DecidableEq, Repr

namespace Delivery

def make (d : Delivery) : Simulation Path :=
  writeContractFile d.outDir d.name d.source d.force

def after (d : Delivery) (w : World) : World :=
  match d.make w with
  | .ok _ w' => w'
  | .error _ w' => w'

/--
The place in which the contract is left. There is none if it cannot be written.
-/
def place? (d : Delivery) (w : World) : Option Location :=
  match d.make w with
  | .ok p w' => (w'.files.locate p).toOption
  | .error _ _ => none

def places : List Delivery → World → List (Option Location)
  | [], _ => []
  | d :: ds, w => d.place? w :: places ds (d.after w)

variable {d : Delivery} {ds : List Delivery} {w w' : World} {l : Location}

section

variable {p : Path} {f : Failure}

end

section NoForce

end NoForce

end Delivery

end Scaffold
