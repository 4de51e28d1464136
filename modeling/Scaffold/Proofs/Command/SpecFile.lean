import Scaffold.Command.New
import Scaffold.Proofs.Command.Simulation
import Scaffold.Proofs.File.Tree
import Scaffold.Proofs.Spec.Document

/-!
This module contains the proof that a specification is read back from the file that it was written
to, provided that it makes sense.
-/

namespace Scaffold

open Simulation

theorem exists_of_writeSpecFile {path : Path} {s : Spec} {w w' : World}
    (h : (writeSpecFile path s : Simulation Unit) w = .ok () w')
    : ∃ t t', (t = w.files ∨ ∃ dir, w.files.makeDirectories dir = (t, .ok ())) ∧
        t.write path (Utf8.encode s.document) = .ok t' ∧ w' = { w with files := t' } := by
  unfold writeSpecFile at h
  cases hparent : path.parent? with
  | none =>
    rw [hparent] at h
    rcases writeFile_bind_orFail_eq_ok_iff.1 h with ⟨t', hwrite, hw⟩
    exact ⟨w.files, t', .inl rfl, hwrite, hw.symm⟩
  | some dir =>
    rw [hparent] at h
    dsimp only at h
    split at h
    . rw [bind_of_ok (makeDirectories_eq dir w)] at h
      rw [bind_eq_ok_iff] at h
      rcases h with ⟨u, v, hdir, h⟩
      rw [orFail_eq_ok_iff] at hdir
      rcases hdir with ⟨hdir, rfl⟩
      rcases writeFile_bind_orFail_eq_ok_iff.1 h with ⟨t', hwrite, hw⟩
      refine ⟨_, t', .inr ⟨dir, ?_⟩, hwrite, hw.symm⟩
      rw [← hdir]
    . rcases writeFile_bind_orFail_eq_ok_iff.1 h with ⟨t', hwrite, hw⟩
      exact ⟨w.files, t', .inl rfl, hwrite, hw.symm⟩

theorem read_of_writeSpecFile {path : Path} {s : Spec} {w w' : World}
    (h : (writeSpecFile path s : Simulation Unit) w = .ok () w')
    : w'.files.read path = .ok (Utf8.encode s.document) := by
  rcases exists_of_writeSpecFile h with ⟨t, t', -, hwrite, rfl⟩
  apply FileTree.read_of_write hwrite

theorem readSpecFile_eq_ok_iff {k : Kind} {path : Path} {s : Spec} {w w' : World}
    : (readSpecFile k path : Simulation Spec) w = .ok s w' ↔
        w' = w ∧ ∃ bytes, w.files.read path = .ok bytes ∧ Spec.ofDocument bytes k = .ok s ∧
          s.validate = .ok () := by
  unfold readSpecFile
  rw [bind_of_ok (readFile_eq path w)]
  simp only [bind_eq_ok_iff, orFail_eq_ok_iff]
  constructor
  . intro h
    rcases h with ⟨bytes, v, ⟨hread, rfl⟩, s', u, ⟨hdoc, rfl⟩, x, y, ⟨hvalid, rfl⟩, hs⟩
    cases hs
    exact ⟨rfl, bytes, hread, hdoc, hvalid⟩
  . intro h
    rcases h with ⟨rfl, bytes, hread, hdoc, hvalid⟩
    exact ⟨bytes, w', ⟨hread, rfl⟩, s, w', ⟨hdoc, rfl⟩, (), w', ⟨hvalid, rfl⟩, rfl⟩

theorem readSpecFile_of_read {path : Path} {s : Spec} {w : World}
    (h : w.files.read path = .ok (Utf8.encode s.document))
    : (readSpecFile s.kind path : Simulation Spec) w =
        match s.validate with
        | .ok () => .ok s w
        | .error e => .error (.invalidFile path e) w := by
  unfold readSpecFile
  rw [bind_of_ok (readFile_eq path w)]
  rw [h]
  rw [bind_of_ok (orFail_ok _ _ w)]
  rw [s.ofDocument_document]
  rw [bind_of_ok (orFail_ok _ _ w)]
  cases s.validate with
  | ok u => rfl
  | error e => rfl

def Simulation.told {α : Type} : EStateM.Result Failure World α → Except (List Link) α
  | .ok a _ => .ok a
  | .error f _ => .error f.chain

/--
Saving a specification and loading it again changes nothing, valid or not: its document gives the
same specification, and the file it was saved to gives it too, unless validation refuses it. Then
the user is told that the specification in this file is invalid, and why.
-/
theorem readSpecFile_writeSpecFile (s : Spec)
    : Spec.ofDocument (Utf8.encode s.document) s.kind = .ok s ∧
        ∀ (path : Path) (w w' : World), (writeSpecFile path s : Simulation Unit) w = .ok () w' →
          (readSpecFile s.kind path : Simulation Spec) w' =
            (match s.validate with
            | .ok () => .ok s w'
            | .error e => .error (.invalidFile path e) w') ∧
          told ((readSpecFile s.kind path : Simulation Spec) w') =
            match s.validate with
            | .ok () => .ok s
            | .error e => .error (.words ("invalid spec ".toList ++ path) :: e.chain) := by
  constructor
  . apply s.ofDocument_document
  . intro path w w' hwrite
    have hread := readSpecFile_of_read (read_of_writeSpecFile hwrite)
    refine ⟨hread, ?_⟩
    rw [hread]
    cases s.validate with
    | ok u => rfl
    | error e => rfl

theorem readSpecFile_writeSpecFile_line_feed
    : ∃ w' : World,
        (writeSpecFile "out/a.json" (.arbiter ⟨"A\n", some [], []⟩) : Simulation Unit)
          (.ofFiles .empty []) = .ok () w' ∧
        (readSpecFile .arbiter "out/a.json" : Simulation Spec) w' =
          .error (.invalidFile "out/a.json" (.invalidName "A\n")) w' ∧
        told ((readSpecFile .arbiter "out/a.json" : Simulation Spec) w') =
          .error [.words "invalid spec out/a.json",
            .words "contract name \"A\\n\" is not a valid identifier"] := by
  have hwrite : (writeSpecFile "out/a.json" (.arbiter ⟨"A\n", some [], []⟩) : Simulation Unit)
      (.ofFiles .empty []) = .ok () (.ofFiles (.directory "out" (.file "a.json"
        (Utf8.encode (Spec.arbiter ⟨"A\n", some [], []⟩).document) .empty) .empty) []) := by
    rfl
  refine ⟨_, hwrite, ?_⟩
  have hread := (readSpecFile_writeSpecFile (.arbiter ⟨"A\n", some [], []⟩)).2 _ _ _ hwrite
  have hvalidate : (Spec.arbiter ⟨"A\n", some [], []⟩).validate = .error (.invalidName "A\n") := by
    decide
  rw [hvalidate] at hread
  refine ⟨hread.1, hread.2.trans ?_⟩
  have hmessage : (SpecError.invalidName "A\n").message =
      "contract name \"A\\n\" is not a valid identifier".toList := by
    decide
  unfold SpecError.chain
  dsimp only
  rw [hmessage]
  rfl

end Scaffold
