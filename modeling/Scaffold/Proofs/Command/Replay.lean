import Scaffold.Proofs.Command.SpecFile

/-!
This module contains runs that use the file of a saved specification. What a run needs to know of
the file is that the specification can be read from it, so that it does not matter how it got there.
-/

namespace Scaffold

open Simulation

theorem eq_of_readSpecFile {k : Kind} {path : Path} {s : Spec} {w w' : World}
    (h : (readSpecFile k path : Simulation Spec) w = .ok s w')
    : s.kind = k ∧ w' = w := by
  rcases readSpecFile_eq_ok_iff.1 h with ⟨rfl, bytes, -, hdoc, -⟩
  refine ⟨?_, rfl⟩
  cases k with
  | obligation =>
    rcases Except.map_eq_ok_iff.1 hdoc with ⟨r, -, rfl⟩
    rfl
  | arbiter =>
    rcases Except.map_eq_ok_iff.1 hdoc with ⟨r, -, rfl⟩
    rfl

namespace New

variable {a : New} {w w' v : World} {s : Spec} {p : Path}

theorem keeps_of_collect (h : (a.collect : Simulation Spec) w = .ok s v)
    : v.files = w.files ∧ v.output = w.output := by
  unfold collect at h
  cases hspec : a.spec with
  | none =>
    simp only [hspec] at h
    rw [bind_of_ok (interview_eq _ w), orFail_eq_ok_iff] at h
    rcases h with ⟨-, rfl⟩
    exact ⟨rfl, rfl⟩
  | some path =>
    cases hkind : a.kind with
    | none =>
      simp only [hspec, hkind] at h
      cases h
    | some k =>
      simp only [hspec, hkind] at h
      rcases eq_of_readSpecFile h with ⟨-, rfl⟩
      exact ⟨rfl, rfl⟩

def save (a : New) (s : Spec) : Simulation Unit :=
  match a.saveSpec with
  | some path => do
    writeSpecFile path s
    Host.report ("Saved spec to " ++ path ++ ['\n'])
  | none => pure ()

def deliver (a : New) (s : Spec) : Simulation Unit :=
  match a.outDir with
  | some dir => do
    let path ← writeContractFile dir s.name s.source a.force
    Host.report ("Wrote " ++ path ++ ['\n'])
  | none => Host.print s.source

theorem run_eq (a : New)
    : (a.run : Simulation Unit) = (do
        let s ← a.collect
        orFail (.invalid s.name) s.validate
        a.save s
        a.deliver s) := by
  unfold run save
  cases a.saveSpec with
  | none =>
    simp only [pure_bind]
    rfl
  | some path =>
    simp only [bind_assoc]
    rfl

theorem run_eq_ok_iff
    : (a.run : Simulation Unit) w = .ok () w' ↔
        ∃ s v u, (a.collect : Simulation Spec) w = .ok s v ∧ s.validate = .ok () ∧
          a.save s v = .ok () u ∧ a.deliver s u = .ok () w' := by
  rw [run_eq]
  constructor
  . intro h
    rw [bind_eq_ok_iff] at h
    rcases h with ⟨s, v, hcollect, h⟩
    rw [bind_eq_ok_iff] at h
    rcases h with ⟨x, y, hvalid, h⟩
    rw [orFail_eq_ok_iff] at hvalid
    rcases hvalid with ⟨hvalid, rfl⟩
    rw [bind_eq_ok_iff] at h
    rcases h with ⟨x, u, hsave, hdeliver⟩
    exact ⟨s, v, u, hcollect, hvalid, hsave, hdeliver⟩
  . intro h
    rcases h with ⟨s, v, u, hcollect, hvalid, hsave, hdeliver⟩
    rw [bind_of_ok hcollect, hvalid, bind_of_ok (orFail_ok _ _ v), bind_of_ok hsave]
    exact hdeliver

theorem save_eq_ok_iff (hsave : a.saveSpec = some p)
    : a.save s v = .ok () w' ↔
        ∃ u, (writeSpecFile p s : Simulation Unit) v = .ok () u ∧
          w' = { u with messages := u.messages ++ ("Saved spec to " ++ p ++ ['\n']) } := by
  unfold save
  rw [hsave]
  dsimp only
  rw [bind_eq_ok_iff]
  constructor
  . intro h
    rcases h with ⟨x, u, hwrite, h⟩
    rw [report_eq] at h
    cases h
    exact ⟨u, hwrite, rfl⟩
  . intro h
    rcases h with ⟨u, hwrite, rfl⟩
    exact ⟨(), u, hwrite, report_eq _ u⟩

theorem deliver_eq_ok_iff {dir : Path} (hout : a.outDir = some dir)
    : a.deliver s v = .ok () w' ↔
        ∃ p u, (writeContractFile dir s.name s.source a.force : Simulation Path) v = .ok p u ∧
          w' = { u with messages := u.messages ++ ("Wrote " ++ p ++ ['\n']) } := by
  unfold deliver
  rw [hout]
  dsimp only
  rw [bind_eq_ok_iff]
  constructor
  . intro h
    rcases h with ⟨p, u, hwrite, h⟩
    rw [report_eq] at h
    cases h
    exact ⟨p, u, hwrite, rfl⟩
  . intro h
    rcases h with ⟨p, u, hwrite, rfl⟩
    exact ⟨p, u, hwrite, report_eq _ u⟩

theorem deliver_of_none (hout : a.outDir = none)
    : a.deliver s v = .ok () { v with output := v.output ++ s.source } := by
  unfold deliver
  rw [hout]
  apply print_eq

theorem run_eq_ok_iff_of_saveSpec (hsave : a.saveSpec = some p) (hout : a.outDir = none)
    : (a.run : Simulation Unit) w = .ok () w' ↔
        ∃ s v u, (a.collect : Simulation Spec) w = .ok s v ∧ s.validate = .ok () ∧
          (writeSpecFile p s : Simulation Unit) v = .ok () u ∧
          w' = { u with
            output := u.output ++ s.source
            messages := u.messages ++ ("Saved spec to " ++ p ++ ['\n']) } := by
  rw [run_eq_ok_iff]
  simp only [save_eq_ok_iff hsave, deliver_of_none hout]
  constructor
  . intro h
    rcases h with ⟨s, v, -, hcollect, hvalid, ⟨u, hwrite, rfl⟩, hw⟩
    cases hw
    exact ⟨s, v, u, hcollect, hvalid, hwrite, rfl⟩
  . intro h
    rcases h with ⟨s, v, u, hcollect, hvalid, hwrite, rfl⟩
    exact ⟨s, v, _, hcollect, hvalid, ⟨u, hwrite, rfl⟩, rfl⟩

theorem run_reading_printing (hkind : a.kind = some s.kind) (hspec : a.spec = some p)
    (hsave : a.saveSpec = none) (hout : a.outDir = none)
    (hread : (readSpecFile s.kind p : Simulation Spec) w = .ok s w)
    (hvalid : s.validate = .ok ())
    : (a.run : Simulation Unit) w = .ok () { w with output := w.output ++ s.source } := by
  have hcollect : (a.collect : Simulation Spec) w = .ok s w := by
    unfold collect
    rw [hkind, hspec]
    exact hread
  unfold run
  rw [bind_of_ok hcollect, hvalid, bind_of_ok (orFail_ok _ _ w), hsave, hout]
  apply print_eq

theorem collect_of_hold (hspec : a.spec = none)
    (h : (Interview.Session.hold a.kind w.input).result = .ok s)
    : (a.collect : Simulation Spec) w = .ok s { w with
        input := (Interview.Session.hold a.kind w.input).unread.flatten
        messages := w.messages ++ (Interview.Session.hold a.kind w.input).transcript } := by
  unfold collect
  rw [hspec]
  dsimp only
  rw [bind_of_ok (interview_eq _ w), h]
  rfl

/--
A saved specification makes the same contract again: a run on the file that a first run saved its
specification to prints what the first run printed. It reads no answer, whatever could be read, and
changes no file.
-/
theorem run_replays_saved {files : FileTree} {input : Bytes} (hsave : a.saveSpec = some p)
    (hout : a.outDir = none) (hrun : (a.run : Simulation Unit) (.ofFiles files input) = .ok () w)
    : ∃ s v, (a.collect : Simulation Spec) (.ofFiles files input) = .ok s v ∧
        w.output = s.source ∧
        ∀ (again : New) (input' : Bytes), again.kind = some s.kind → again.spec = some p →
          again.saveSpec = none → again.outDir = none →
          (again.run : Simulation Unit) (.ofFiles w.files input') =
            .ok () ⟨w.files, input', w.output, []⟩ := by
  rcases (run_eq_ok_iff_of_saveSpec hsave hout).1 hrun with ⟨s, v, u, hcollect, hvalid, hwrite, rfl⟩
  have hread := read_of_writeSpecFile hwrite
  rcases exists_of_writeSpecFile hwrite with ⟨-, t', -, -, hu⟩
  have houtput : u.output = [] := by
    rw [hu]
    exact (keeps_of_collect hcollect).2
  refine ⟨s, v, hcollect, ?_, ?_⟩
  . change u.output ++ s.source = s.source
    rw [houtput]
    rfl
  . intro again input' hkind hspec hsave' hout'
    have hloaded := readSpecFile_of_read (w := .ofFiles u.files input') hread
    rw [hvalid] at hloaded
    rw [run_reading_printing hkind hspec hsave' hout' hloaded hvalid]
    change _ = EStateM.Result.ok () (World.mk u.files input' (u.output ++ s.source) [])
    rw [houtput]
    rfl

theorem run_replays_saved_interview
    : ∃ w, ((⟨none, none, none, some "out/a.json", false⟩ : New).run : Simulation Unit)
          (.ofFiles .empty (Utf8.encode "arbiter\nA\n\n\nleft")) = .ok () w ∧
        ((⟨some .arbiter, some "out/a.json", none, none, true⟩ : New).run : Simulation Unit)
          (.ofFiles w.files (Utf8.encode "y\n")) =
            .ok () ⟨w.files, Utf8.encode "y\n", w.output, []⟩ := by
  have hheld : (Interview.Session.hold none (Utf8.encode "arbiter\nA\n\n\nleft")).result =
      .ok (.arbiter ⟨"A", none, Interview.defaultFields⟩) := by
    decide +kernel
  have hvalid : (Spec.arbiter ⟨"A", none, Interview.defaultFields⟩).validate = .ok () := by
    decide
  have hcollect := collect_of_hold (a := ⟨none, none, none, some "out/a.json", false⟩)
    (w := .ofFiles .empty (Utf8.encode "arbiter\nA\n\n\nleft")) rfl hheld
  have hwrite : ∀ input output messages,
      (writeSpecFile "out/a.json" (.arbiter ⟨"A", none, Interview.defaultFields⟩) : Simulation Unit)
        ⟨.empty, input, output, messages⟩ =
          .ok () ⟨.directory "out" (.file "a.json" (Utf8.encode
            (Spec.arbiter ⟨"A", none, Interview.defaultFields⟩).document) .empty) .empty,
              input, output, messages⟩ := by
    intro input output messages
    rfl
  have hrun := (run_eq_ok_iff_of_saveSpec rfl rfl).2
    ⟨_, _, _, hcollect, hvalid, hwrite _ _ _, rfl⟩
  refine ⟨_, hrun, ?_⟩
  rcases run_replays_saved rfl rfl hrun with ⟨s, v, hs, -, hreplay⟩
  rw [hcollect] at hs
  cases hs
  apply hreplay ⟨some .arbiter, some "out/a.json", none, none, true⟩ _ rfl rfl rfl rfl

end New

end Scaffold
