import Scaffold.Proofs.Command.ContractFile
import Scaffold.Proofs.Spec.Validity

/-!
This module contains what a run leaves behind that ends well: what it was asked for, in the places
where it was asked for, and nothing else. A run that reads its specification from a file does not
depend on what can be read from the terminal, however it ends.
-/

namespace Scaffold

open FileTree

open Simulation

namespace Simulation

variable {α β : Type}

def withInput (input : Bytes)
    : EStateM.Result Failure World α → EStateM.Result Failure World α
  | .ok a w => .ok a { w with input }
  | .error f w => .error f { w with input }

/--
Whether a part of a run comes to the same whatever can be read from the terminal, and leaves it
there.
-/
def IgnoresInput (x : Simulation α) : Prop :=
  ∀ (w : World) (input : Bytes), x { w with input } = withInput input (x w)

theorem IgnoresInput.bind {x : Simulation α} {f : α → Simulation β} (hx : IgnoresInput x)
    (hf : ∀ a, IgnoresInput (f a))
    : IgnoresInput (x >>= f) := by
  intro w input
  have hinput := hx w input
  cases h : x w with
  | ok a v =>
    rw [h] at hinput
    rw [bind_of_ok h, bind_of_ok hinput]
    apply hf a v input
  | error e v =>
    rw [h] at hinput
    rw [bind_of_error h, bind_of_error hinput]
    rfl

theorem ignoresInput_pure (a : α) : IgnoresInput (pure a : Simulation α) :=
  fun _ _ => rfl

theorem ignoresInput_throw (e : Failure) : IgnoresInput (throw e : Simulation α) :=
  fun _ _ => rfl

theorem ignoresInput_readFile (p : Path) : IgnoresInput (Host.readFile p : Simulation _) :=
  fun _ _ => rfl

theorem ignoresInput_writeFile (p : Path) (c : Bytes)
    : IgnoresInput (Host.writeFile p c : Simulation _) := by
  intro w input
  rw [writeFile_eq, writeFile_eq]
  dsimp only
  cases w.files.write p c with
  | ok t => rfl
  | error f => rfl

theorem ignoresInput_makeDirectories (p : Path)
    : IgnoresInput (Host.makeDirectories p : Simulation _) :=
  fun _ _ => rfl

theorem ignoresInput_isPresent (p : Path) : IgnoresInput (Host.isPresent p : Simulation _) :=
  fun _ _ => rfl

theorem ignoresInput_report (t : Text) : IgnoresInput (Host.report t : Simulation Unit) :=
  fun _ _ => rfl

theorem ignoresInput_print (t : Text) : IgnoresInput (Host.print t : Simulation Unit) :=
  fun _ _ => rfl

theorem passesThrough_ignoresInput : PassesThrough IgnoresInput where
  pure := ignoresInput_pure
  bind hx hf := hx.bind hf
  throw _ := ignoresInput_throw _
  readFile := ignoresInput_readFile
  writeFile := ignoresInput_writeFile
  makeDirectories := ignoresInput_makeDirectories
  isPresent := ignoresInput_isPresent
  report := ignoresInput_report
  print := ignoresInput_print

end Simulation

namespace New

variable {a : New} {s : Spec} {u v w w' : World} {p dir : Path}

theorem ignoresInput_collect (hspec : a.spec = some p)
    : IgnoresInput (a.collect : Simulation Spec) := by
  unfold collect
  rw [hspec]
  cases a.kind with
  | none => exact ignoresInput_throw _
  | some k => exact passesThrough_ignoresInput.readSpecFile k p

theorem ignoresInput_run (hspec : a.spec = some p) : IgnoresInput (a.run : Simulation Unit) := by
  apply passesThrough_ignoresInput.run
  apply ignoresInput_collect hspec

def ContractAt (a : New) (s : Spec) (t : FileTree) (l : Location) : Prop :=
  ∃ dir, a.outDir = some dir ∧ t.locate (Path.join dir (s.name ++ ".sol")) = .ok l

/--
What a run leaves behind that ends well with a certain specification: the files there were before,
those there are now, and what has been written as a result.
-/
structure Leaves (a : New) (s : Spec) (t t' : FileTree) (output : Text) : Prop where
  /-- The contract stands right in its directory, to which an empty path leads as well, and where
  nothing stood if it must not be overwritten. -/
  contract (dir : Path) (h : a.outDir = some dir)
    : output = [] ∧ ∃ place, t'.walk [] (Path.steps dir) = .ok place ∧
        t'.get? place = some .directory ∧
        t'.locate (Path.join dir (s.name ++ ".sol")) =
          .ok (place ++ [s.name ++ ".sol".toList]) ∧
        t'.content? (place ++ [s.name ++ ".sol".toList]) = some (Utf8.encode s.source) ∧
        (a.force = false → t.get? (place ++ [s.name ++ ".sol".toList]) = none)
  printed (h : a.outDir = none) : output = s.source
  /-- The specification stands in its file, unless the contract has taken this place. -/
  saved (p : Path) (h : a.saveSpec = some p)
    : ∃ l, t'.locate p = .ok l ∧
        (¬ a.ContractAt s t' l → t'.content? l = some (Utf8.encode s.document))
  others (l : Location) (hcontract : ¬ a.ContractAt s t' l)
    (hsaved : ∀ p, a.saveSpec = some p → t'.locate p ≠ .ok l)
    : t'.content? l = t.content? l

theorem files_of_save (h : a.save s v = .ok () u)
    : Extends v.files u.files ∧ u.output = v.output ∧
        (∀ l, (∀ p, a.saveSpec = some p → u.files.locate p ≠ .ok l) →
          u.files.content? l = v.files.content? l) ∧
        ∀ p, a.saveSpec = some p → ∃ l, u.files.locate p = .ok l ∧
          u.files.content? l = some (Utf8.encode s.document) := by
  cases hsave : a.saveSpec with
  | none =>
    unfold save at h
    rw [hsave] at h
    cases h
    exact ⟨(SameFiles.refl _).extends, rfl, fun _ _ => rfl, nofun⟩
  | some p =>
    rcases (save_eq_ok_iff hsave).1 h with ⟨x, hwrite, rfl⟩
    have hstores := stores_of_writeSpecFile hwrite
    have hextends := extends_of_writeSpecFile hwrite
    refine ⟨hextends, ?_, ?_, ?_⟩
    . rcases exists_of_writeSpecFile hwrite with ⟨-, t', -, -, rfl⟩
      rfl
    . intro l hl
      exact hstores.content?_eq (hl p rfl)
    . intro p' hp'
      cases hp'
      rcases hstores with ⟨l, hlocate, hcontent, -⟩
      exact ⟨l, hlocate, hcontent⟩

theorem files_of_deliver (h : a.deliver s v = .ok () u)
    : Extends v.files u.files ∧
        ∀ l, ¬ a.ContractAt s u.files l → u.files.content? l = v.files.content? l := by
  cases hout : a.outDir with
  | none =>
    rw [deliver_of_none hout] at h
    cases h
    exact ⟨(SameFiles.refl _).extends, fun _ _ => rfl⟩
  | some dir =>
    rcases (deliver_eq_ok_iff hout).1 h with ⟨p, x, hwrite, rfl⟩
    have hstores := stores_of_writeContractFile hwrite
    have hextends := extends_of_writeContractFile hwrite
    refine ⟨hextends, ?_⟩
    intro l hl
    apply hstores.content?_eq
    intro hlocate
    rw [(exists_of_writeContractFile hwrite).1] at hlocate
    exact hl ⟨dir, hout, hlocate⟩

theorem contract_of_deliver (hname : '/' ∉ s.name) (hout : a.outDir = some dir)
    (h : a.deliver s v = .ok () u)
    : u.output = v.output ∧ ∃ place, u.files.walk [] (Path.steps dir) = .ok place ∧
        u.files.get? place = some .directory ∧
        u.files.locate (Path.join dir (s.name ++ ".sol")) =
          .ok (place ++ [s.name ++ ".sol".toList]) ∧
        u.files.content? (place ++ [s.name ++ ".sol".toList]) = some (Utf8.encode s.source) ∧
        (a.force = false → v.files.get? (place ++ [s.name ++ ".sol".toList]) = none) := by
  rcases (deliver_eq_ok_iff hout).1 h with ⟨p, x, hwrite, rfl⟩
  rcases locate_of_writeContractFile hname hwrite with ⟨place, hwalk, hplace, hlocate⟩
  rcases stores_of_writeContractFile hwrite with ⟨l, hl, hcontent, -⟩
  rw [hlocate] at hl
  cases hl
  have hfree (hforce : a.force = false) := by
    rw [hforce] at hwrite
    exact get?_eq_none_of_writeContractFile hwrite hlocate
  rcases exists_of_writeContractFile hwrite with ⟨rfl, t, t', -, -, -, rfl⟩
  exact ⟨rfl, place, hwalk, hplace, hlocate, hcontent, hfree⟩

theorem leaves_of_deliver (hname : '/' ∉ s.name) (houtput : v.output = [])
    (hsave : a.save s v = .ok () u) (hdeliver : a.deliver s u = .ok () w)
    : a.Leaves s v.files w.files w.output := by
  rcases files_of_save hsave with ⟨hextends, hkept, hrest, hsaved⟩
  rcases files_of_deliver hdeliver with ⟨hextends', hrest'⟩
  rw [houtput] at hkept
  constructor
  case contract =>
    intro dir hout
    rcases contract_of_deliver hname hout hdeliver with
      ⟨hsilent, place, hwalk, hplace, hlocate, hcontent, hfree⟩
    refine ⟨hsilent.trans hkept, place, hwalk, hplace, hlocate, hcontent, ?_⟩
    intro hforce
    -- What stood there before would still be there after saving, and in the way.
    exact hextends.get?_eq_none (hfree hforce)
  case printed =>
    intro hout
    rw [deliver_of_none hout] at hdeliver
    cases hdeliver
    rw [hkept]
    rfl
  case saved =>
    intro p hp
    rcases hsaved p hp with ⟨l, hlocate, hcontent⟩
    refine ⟨l, hextends'.locate hlocate, ?_⟩
    intro hl
    rw [hrest' l hl, hcontent]
  case others =>
    intro l hcontract hl
    -- The path of the saved specification led to no other place before the contract was delivered.
    rw [hrest' l hcontract, hrest l]
    intro p hp hlocate
    exact hl p hp (hextends'.locate hlocate)

/--
A run that ends well has collected a specification that makes sense, and leaves behind what it was
asked for and nothing else. A run that reads its specification from a file comes to the same
whatever can be read from the terminal.
-/
theorem run_leaves (a : New)
    : (∀ (files : FileTree) (input : Bytes) (w : World),
          (a.run : Simulation Unit) (.ofFiles files input) = .ok () w →
            ∃ s v, (a.collect : Simulation Spec) (.ofFiles files input) = .ok s v ∧
              s.validate = .ok () ∧ a.Leaves s files w.files w.output) ∧
        (a.spec ≠ none → ∀ (files : FileTree) (input input' : Bytes),
          (a.run : Simulation Unit) (.ofFiles files input') =
            withInput input' ((a.run : Simulation Unit) (.ofFiles files input))) := by
  constructor
  . intro files input w h
    rcases run_eq_ok_iff.1 h with ⟨s, v, u, hcollect, hvalid, hsave, hdeliver⟩
    rcases keeps_of_collect hcollect with ⟨hfiles, houtput⟩
    refine ⟨s, v, hcollect, hvalid, ?_⟩
    have hname : '/' ∉ s.name :=
      Text.not_mem_of_isIdentifier (Spec.isIdentifier_name hvalid) (by decide)
    have hleaves := leaves_of_deliver hname houtput hsave hdeliver
    rw [hfiles] at hleaves
    exact hleaves
  . intro hspec files input input'
    rcases Option.ne_none_iff_exists'.1 hspec with ⟨p, hp⟩
    exact ignoresInput_run hp (.ofFiles files input) input'

theorem run_leaves_resaved
    : ∃ s : Spec, s = .arbiter ⟨"A", none, [⟨"uint256", "n"⟩]⟩ ∧
        ∃ t : FileTree, t = .file "in.json" (Utf8.encode s.document)
            (.file "B.sol" (Utf8.encode "kept") .empty) ∧
          ∃ a : New, a = ⟨some .arbiter, some "in.json", some "out", some "./in.json", false⟩ ∧
            ∃ w, (a.run : Simulation Unit) (.ofFiles t []) = .ok () w ∧
              a.Leaves s t w.files w.output ∧
              w.files.locate "out/A.sol" = .ok ["out", "A.sol"] ∧
              w.files.content? ["out", "A.sol"] = some (Utf8.encode s.source) ∧
              (a.run : Simulation Unit) (.ofFiles t (Utf8.encode "y\n")) =
                .ok () { w with input := Utf8.encode "y\n" } := by
  rcases (exists_eq : ∃ s : Spec, s = .arbiter ⟨"A", none, [⟨"uint256", "n"⟩]⟩) with ⟨s, hs⟩
  rcases (exists_eq : ∃ t : FileTree, t = .file "in.json" (Utf8.encode s.document)
    (.file "B.sol" (Utf8.encode "kept") .empty)) with ⟨t, ht⟩
  rcases (exists_eq : ∃ a : New, a = ⟨some .arbiter, some "in.json", some "out",
    some "./in.json", false⟩) with ⟨a, ha⟩
  refine ⟨s, hs, t, ht, a, ha, ?_⟩
  have hvalid : s.validate = .ok () := by
    rw [hs]
    decide
  have hcollect : (a.collect : Simulation Spec) (.ofFiles t []) = .ok s (.ofFiles t []) := by
    rw [ha]
    apply collect_of_read (p := "in.json") _ rfl _ hvalid
    . rw [hs]
      rfl
    . rw [ht]
      rfl
  have hrun : ∃ w, (a.run : Simulation Unit) (.ofFiles t []) = .ok () w ∧
      w.files.locate "out/A.sol" = .ok ["out", "A.sol"] := by
    unfold run
    rw [bind_of_ok hcollect, hvalid, bind_of_ok (orFail_ok _ _ _)]
    rw [ha, ht, hs]
    exact ⟨_, rfl, rfl⟩
  rcases hrun with ⟨w, hrun, hplace⟩
  rcases (run_leaves a).1 t [] w hrun with ⟨s', v, hs', -, hleaves⟩
  rw [hcollect] at hs'
  cases hs'
  refine ⟨w, hrun, hleaves, hplace, ?_, ?_⟩
  . rcases hleaves.contract "out" (by rw [ha]) with ⟨-, place, -, -, hlocate, hcontent, -⟩
    rw [hs] at hlocate hcontent ⊢
    rw [Except.ok.inj (hplace.symm.trans hlocate)]
    exact hcontent
  . rw [(run_leaves a).2 (by rw [ha]; nofun) t [] (Utf8.encode "y\n"), hrun]
    rfl

end New

end Scaffold
