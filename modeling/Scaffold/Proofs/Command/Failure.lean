import Scaffold.Proofs.Command.Inheritance
import Scaffold.Proofs.File.Frame

/-!
This module contains what a run that fails leaves behind. Nothing but the two writes of a run
changes a file, and a write that fails changes none, so a failing run can only have saved its
specification.
-/

namespace Scaffold

open FileTree

namespace Simulation

variable {α β ε : Type}

structure KeepsFiles (x : Simulation α) : Prop where
  ok (w w' : World) (a : α) (h : x w = .ok a w') : SameFiles w.files w'.files
  error (w w' : World) (e : Failure) (h : x w = .error e w') : SameFiles w.files w'.files

def IsSafe (x : Simulation α) : Prop :=
  ∀ (w w' : World) (e : Failure), x w = .error e w' → SameFiles w.files w'.files

theorem KeepsFiles.bind {x : Simulation α} {f : α → Simulation β} (hx : KeepsFiles x)
    (hf : ∀ a, KeepsFiles (f a))
    : KeepsFiles (x >>= f) := by
  constructor
  . intro w w' b h
    rcases bind_eq_ok_iff.1 h with ⟨a, v, hxa, hfa⟩
    exact (hx.ok w v a hxa).trans ((hf a).ok v w' b hfa)
  . intro w w' e h
    rcases bind_eq_error_iff.1 h with hxe | ⟨a, v, hxa, hfa⟩
    . exact hx.error w w' e hxe
    . exact (hx.ok w v a hxa).trans ((hf a).error v w' e hfa)

theorem KeepsFiles.bind_isSafe {x : Simulation α} {f : α → Simulation β} (hx : KeepsFiles x)
    (hf : ∀ a, IsSafe (f a))
    : IsSafe (x >>= f) := by
  intro w w' e h
  rcases bind_eq_error_iff.1 h with hxe | ⟨a, v, hxa, hfa⟩
  . exact hx.error w w' e hxe
  . exact (hx.ok w v a hxa).trans (hf a v w' e hfa)

/--
What comes behind a write is safe only if it cannot fail.
-/
theorem IsSafe.bind {x : Simulation α} {f : α → Simulation β} (hx : IsSafe x)
    (hf : ∀ a w e w', f a w ≠ .error e w')
    : IsSafe (x >>= f) := by
  intro w w' e h
  rcases bind_eq_error_iff.1 h with hxe | ⟨a, v, hxa, hfa⟩
  . exact hx w w' e hxe
  . exact absurd hfa (hf a v e w')

theorem keepsFiles_pure (a : α) : KeepsFiles (pure a : Simulation α) := by
  constructor
  . intro w w' b h
    cases h
    exact .refl _
  . intro w w' e h
    cases h

theorem keepsFiles_throw (e : Failure) : KeepsFiles (throw e : Simulation α) := by
  constructor
  . intro w w' b h
    cases h
  . intro w w' e h
    cases h
    exact .refl _

theorem keepsFiles_orFail (reason : ε → Failure) (x : Except ε α)
    : KeepsFiles (orFail reason x : Simulation α) := by
  cases x with
  | ok a => exact keepsFiles_pure a
  | error e => exact keepsFiles_throw (reason e)

theorem keepsFiles_readFile (p : Path) : KeepsFiles (Host.readFile p : Simulation _) := by
  constructor
  . intro w w' a h
    cases h
    exact .refl _
  . intro w w' e h
    cases h

theorem keepsFiles_isPresent (p : Path) : KeepsFiles (Host.isPresent p : Simulation _) := by
  constructor
  . intro w w' a h
    cases h
    exact .refl _
  . intro w w' e h
    cases h

theorem keepsFiles_makeDirectories (p : Path)
    : KeepsFiles (Host.makeDirectories p : Simulation _) := by
  constructor
  . intro w w' a h
    rw [makeDirectories_eq] at h
    cases h
    apply sameFiles_makeDirectories
  . intro w w' e h
    cases h

theorem keepsFiles_interview (k : Option Kind)
    : KeepsFiles (Host.interview k : Simulation _) := by
  constructor
  . intro w w' a h
    rw [interview_eq] at h
    cases h
    exact .refl _
  . intro w w' e h
    cases h

theorem isSafe_writeFile (p : Path) (c : Bytes)
    : IsSafe (do orFail (.write p) (← Host.writeFile p c) : Simulation Unit) := by
  intro w w' e h
  rw [bind_eq_error_iff, writeFile_eq] at h
  rcases h with h | ⟨r, v, hwrite, h⟩
  . split at h
    . cases h
    . cases h
  . rcases orFail_eq_error_iff.1 h with ⟨c, rfl, -, rfl⟩
    split at hwrite
    . cases hwrite
    . cases hwrite
      exact .refl _

theorem passesOn_keepsFiles : PassesOn KeepsFiles where
  pure := keepsFiles_pure
  bind hx hf := hx.bind hf
  throw _ := keepsFiles_throw _
  readFile := keepsFiles_readFile

end Simulation

open Simulation

theorem isSafe_writeSpecFile (p : Path) (s : Spec)
    : IsSafe (writeSpecFile p s : Simulation Unit) := by
  unfold writeSpecFile
  split
  . dsimp only
    split
    . next dir _ _ =>
      apply (keepsFiles_makeDirectories dir).bind_isSafe
      intro r
      apply (keepsFiles_orFail _ r).bind_isSafe
      intro u
      apply isSafe_writeFile
    . apply isSafe_writeFile
  . apply isSafe_writeFile

theorem isSafe_writeContractFile (dir : Path) (name source : Text) (force : Bool)
    : IsSafe (writeContractFile dir name source force : Simulation Path) := by
  have hwrite : ∀ p : Path, IsSafe (do
      orFail (.write p) (← Host.writeFile p (Utf8.encode source))
      return p : Simulation Path) := by
    intro p
    rw [← bind_assoc]
    apply (isSafe_writeFile p _).bind
    intro u w e w' h
    cases h
  unfold writeContractFile
  apply (keepsFiles_makeDirectories dir).bind_isSafe
  intro r
  apply (keepsFiles_orFail _ r).bind_isSafe
  intro u
  dsimp only
  apply (keepsFiles_isPresent _).bind_isSafe
  intro present
  split
  . apply (keepsFiles_throw _).bind_isSafe
    intro v
    apply hwrite
  . apply hwrite

section

variable {p : Path} {s : Spec} {w w' : World}

theorem sameFiles_of_writeSpecFile
    (h : (writeSpecFile p s : Simulation Unit) w = .ok () w')
    : ∃ t, SameFiles w.files t ∧ t.write p (Utf8.encode s.document) = .ok w'.files := by
  rcases exists_of_writeSpecFile h with ⟨t, t', hdirectories, hwrite, rfl⟩
  refine ⟨t, ?_, hwrite⟩
  rcases hdirectories with rfl | ⟨dir, hdir⟩
  . exact .refl _
  . exact sameFiles_of_makeDirectories hdir

theorem stores_of_writeSpecFile (h : (writeSpecFile p s : Simulation Unit) w = .ok () w')
    : Stores w.files w'.files p (Utf8.encode s.document) := by
  rcases sameFiles_of_writeSpecFile h with ⟨t, hsame, hwrite⟩
  exact hsame.stores (stores_of_write hwrite)

theorem extends_of_writeSpecFile (h : (writeSpecFile p s : Simulation Unit) w = .ok () w')
    : Extends w.files w'.files := by
  rcases sameFiles_of_writeSpecFile h with ⟨t, hsame, hwrite⟩
  exact hsame.extends.trans (extends_of_write hwrite)

end

/--
The failures of which the file of a contract is the cause: its directory cannot be made, the file is
there already, or it cannot be written.
-/
inductive Failure.ConcernsContract (dir : Path) (name : Text) : Failure → Prop where
  | create (cause : FileFault) : ConcernsContract dir name (.create dir cause)
  | occupied : ConcernsContract dir name (.occupied (Path.join dir (name ++ ".sol")))
  | write (cause : FileFault)
    : ConcernsContract dir name (.write (Path.join dir (name ++ ".sol")) cause)

theorem concernsContract_of_writeContractFile {dir : Path} {name source : Text} {force : Bool}
    {w w' : World} {f : Failure}
    (h : (writeContractFile dir name source force : Simulation Path) w = .error f w')
    : f.ConcernsContract dir name := by
  have hwrite : ∀ (p : Path) (v : World), (do
      orFail (.write p) (← Host.writeFile p (Utf8.encode source))
      return p : Simulation Path) v = .error f w' → ∃ cause, f = .write p cause := by
    intro p v hv
    rcases bind_eq_error_iff.1 hv with hfile | ⟨r, u, -, hv⟩
    . rw [writeFile_eq] at hfile
      split at hfile
      . cases hfile
      . cases hfile
    . rcases bind_eq_error_iff.1 hv with hfail | ⟨x, y, -, hpure⟩
      . rcases orFail_eq_error_iff.1 hfail with ⟨cause, -, rfl, -⟩
        exact ⟨cause, rfl⟩
      . cases hpure
  unfold writeContractFile at h
  rw [bind_of_ok (makeDirectories_eq dir w)] at h
  rcases bind_eq_error_iff.1 h with hcreate | ⟨x, v, -, h⟩
  . rcases orFail_eq_error_iff.1 hcreate with ⟨cause, -, rfl, -⟩
    exact .create cause
  . dsimp only at h
    rcases bind_eq_error_iff.1 h with hpresent | ⟨present, u, -, h⟩
    . cases hpresent
    . split at h
      . rcases bind_eq_error_iff.1 h with hthrow | ⟨x, y, hthrow, -⟩
        . cases hthrow
          exact .occupied
        . cases hthrow
      . rcases hwrite _ u h with ⟨cause, rfl⟩
        exact .write cause

namespace New

variable {a : New} {w w' : World} {f : Failure}

theorem keepsFiles_collect (a : New) : KeepsFiles (a.collect : Simulation Spec) := by
  unfold collect
  split
  . apply (keepsFiles_interview _).bind
    intro r
    apply keepsFiles_orFail
  . apply keepsFiles_throw
  . apply passesOn_keepsFiles.readSpecFile

theorem isSafe_run (hsave : a.saveSpec = none) : IsSafe (a.run : Simulation Unit) := by
  unfold run
  rw [hsave]
  apply (keepsFiles_collect a).bind_isSafe
  intro s
  apply (keepsFiles_orFail _ _).bind_isSafe
  intro u
  dsimp only
  split
  . apply (isSafe_writeContractFile _ _ _ _).bind
    intro p w e w' h
    cases h
  . intro w w' e h
    cases h

theorem collect_of_read {s : Spec} {p : Path} (hkind : a.kind = some s.kind)
    (hspec : a.spec = some p) (hread : w.files.read p = .ok (Utf8.encode s.document))
    (hvalid : s.validate = .ok ())
    : (a.collect : Simulation Spec) w = .ok s w := by
  have hload := readSpecFile_of_read hread
  rw [hvalid] at hload
  unfold collect
  rw [hspec, hkind]
  exact hload

/--
A failing run changes no file, unless it was asked to save its specification and fails on the
contract afterwards. Then this specification is what it leaves behind: no other file has changed.
-/
theorem run_error_keeps_files (h : (a.run : Simulation Unit) w = .error f w')
    : (∀ l, w'.files.content? l = w.files.content? l) ∨
        ∃ p dir s v, a.saveSpec = some p ∧ a.outDir = some dir ∧
          (a.collect : Simulation Spec) w = .ok s v ∧ s.validate = .ok () ∧
          f.ConcernsContract dir s.name ∧
          Stores w.files w'.files p (Utf8.encode s.document) := by
  cases hsave : a.saveSpec with
  | none =>
    left
    exact (isSafe_run hsave w w' f h).content
  | some p =>
    unfold run at h
    rw [hsave] at h
    rcases bind_eq_error_iff.1 h with hcollect | ⟨s, v, hcollect, h⟩
    . left
      exact ((keepsFiles_collect a).error w w' f hcollect).content
    . have hkeeps := (keepsFiles_collect a).ok w v s hcollect
      rcases bind_eq_error_iff.1 h with hinvalid | ⟨u, v', hvalid, h⟩
      . rcases orFail_eq_error_iff.1 hinvalid with ⟨cause, -, -, rfl⟩
        left
        exact hkeeps.content
      . rcases orFail_eq_ok_iff.1 hvalid with ⟨hsense, rfl⟩
        dsimp only at h
        rcases bind_eq_error_iff.1 h with hwrite | ⟨x, y, hwrite, h⟩
        . left
          exact (hkeeps.trans (isSafe_writeSpecFile p s v w' f hwrite)).content
        . right
          have hstores := hkeeps.stores (stores_of_writeSpecFile hwrite)
          rw [bind_of_ok (report_eq _ y)] at h
          cases hout : a.outDir with
          | none =>
            rw [hout] at h
            cases h
          | some dir =>
            rw [hout] at h
            dsimp only at h
            rcases bind_eq_error_iff.1 h with hcontract | ⟨path, z, -, h⟩
            . have hsame := isSafe_writeContractFile _ _ _ _ _ w' f hcontract
              refine ⟨p, dir, s, v, rfl, rfl, hcollect, hsense, ?_, hstores.sameFiles hsame⟩
              exact concernsContract_of_writeContractFile hcontract
            . cases h

theorem run_error_keeps_files_occupied
    : ∃ s : Spec, s = .arbiter ⟨"A", none, [⟨"uint256", "n"⟩]⟩ ∧
        ∃ w', ((⟨some .arbiter, some "in.json", some "out", some "out/A.sol", false⟩ : New).run :
            Simulation Unit) (.ofFiles (.file "in.json" (Utf8.encode s.document) .empty) []) =
              .error (.occupied "out/A.sol") w' ∧
          Stores (.file "in.json" (Utf8.encode s.document) .empty) w'.files "out/A.sol"
            (Utf8.encode s.document) := by
  refine ⟨_, rfl, ?_⟩
  have hvalid : (Spec.arbiter ⟨"A", none, [⟨"uint256", "n"⟩]⟩).validate = .ok () := by
    decide
  have hcollect := collect_of_read
    (a := ⟨some .arbiter, some "in.json", some "out", some "out/A.sol", false⟩)
    (w := .ofFiles (.file "in.json" (Utf8.encode
      (Spec.arbiter ⟨"A", none, [⟨"uint256", "n"⟩]⟩).document) .empty) []) rfl rfl rfl hvalid
  have hrun : ∃ w', ((⟨some .arbiter, some "in.json", some "out", some "out/A.sol", false⟩ : New).run :
      Simulation Unit) (.ofFiles (.file "in.json" (Utf8.encode
        (Spec.arbiter ⟨"A", none, [⟨"uint256", "n"⟩]⟩).document) .empty) []) =
          .error (.occupied "out/A.sol") w' ∧
      w'.files.content? ["out", "A.sol"] ≠ none := by
    unfold run
    rw [bind_of_ok hcollect, hvalid, bind_of_ok (orFail_ok _ _ _)]
    exact ⟨_, rfl, nofun⟩
  rcases hrun with ⟨w', hrun, hsaved⟩
  refine ⟨w', hrun, ?_⟩
  rcases run_error_keeps_files hrun with hsame | ⟨p, dir, s', v, hp, -, hs', -, -, hstores⟩
  . exact absurd (hsame ["out", "A.sol"]) hsaved
  . cases hp
    rw [hcollect] at hs'
    cases hs'
    exact hstores

/--
A run that must not overwrite the contract `A.sol` has saved its specification to a file that was
not there before when it notices.
-/
theorem run_error_adds_file
    : ∃ s : Spec, s = .arbiter ⟨"A", none, [⟨"uint256", "n"⟩]⟩ ∧
        ∃ t : FileTree, t = .file "in.json" (Utf8.encode s.document)
            (.file "A.sol" (Utf8.encode "kept") .empty) ∧
          ∃ w', ((⟨some .arbiter, some "in.json", some ".", some "saved.json", false⟩ : New).run :
              Simulation Unit) (.ofFiles t []) = .error (.occupied "./A.sol") w' ∧
            t.content? ["saved.json"] = none ∧
            w'.files.content? ["saved.json"] = some (Utf8.encode s.document) := by
  refine ⟨_, rfl, _, rfl, ?_⟩
  have hvalid : (Spec.arbiter ⟨"A", none, [⟨"uint256", "n"⟩]⟩).validate = .ok () := by
    decide
  have hcollect := collect_of_read
    (a := ⟨some .arbiter, some "in.json", some ".", some "saved.json", false⟩)
    (w := .ofFiles (.file "in.json" (Utf8.encode
      (Spec.arbiter ⟨"A", none, [⟨"uint256", "n"⟩]⟩).document)
        (.file "A.sol" (Utf8.encode "kept") .empty)) []) rfl rfl rfl hvalid
  unfold run
  rw [bind_of_ok hcollect, hvalid, bind_of_ok (orFail_ok _ _ _)]
  exact ⟨_, rfl, rfl, rfl⟩

end New

end Scaffold
