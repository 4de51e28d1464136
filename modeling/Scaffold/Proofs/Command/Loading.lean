import Mathlib.Logic.Relation
import Scaffold.Proofs.Command.SpecFile
import Scaffold.Proofs.Spec.Rewriting

/-!
This module contains the proof that the way in which a specification is written makes no difference
when it is loaded.
-/

namespace Scaffold

open Simulation

theorem Json.isWritten_pretty {t : Json} (h : t.IsIntegral)
    : Tree.IsWritten t.tree (Utf8.decode (Utf8.encode (t.pretty 0 ++ ['\n']))) := by
  rw [Utf8.decode_encode, ← Text.glyphs, Text.glyphs_append]
  exact ⟨[], _, _, isGap_nil, isGap_newline 0, spells_pretty h 0, rfl⟩

namespace Spec

variable {k : Kind} {bytes bytes' : Bytes} {s : Spec}

theorem exists_isWritten_of_ofDocument (h : ofDocument bytes k = .ok s)
    : ∃ t, Tree.IsWritten t (Utf8.decode bytes) := by
  cases k with
  | obligation =>
    rcases Except.map_eq_ok_iff.1 h with ⟨r, hr, -⟩
    rcases Record.ofDocument_eq_ok_iff.1 hr with ⟨t, ht, -⟩
    exact ⟨t, ht⟩
  | arbiter =>
    rcases Except.map_eq_ok_iff.1 h with ⟨r, hr, -⟩
    rcases Record.ofDocument_eq_ok_iff.1 hr with ⟨t, ht, -⟩
    exact ⟨t, ht⟩

theorem ofDocument_of_reflTransGen (h : Relation.ReflTransGen (DocumentRewrite k) bytes bytes')
    (hs : ofDocument bytes k = .ok s)
    : ofDocument bytes' k = .ok s := by
  induction h with
  | refl => exact hs
  | tail _ hrewrite ih => exact hrewrite.ofDocument ih

end Spec

theorem Arbiter.documentRewrite_listed (a : Arbiter)
    : Spec.DocumentRewrite .arbiter (Utf8.encode (Spec.arbiter a).document) (Utf8.encode
        ((Json.array [.string a.name, a.base.elim .null .string, a.demandFields.toJson]).pretty 0 ++
          ['\n'])) := by
  refine ⟨_, _, Json.isWritten_pretty ?_, Json.isWritten_pretty ?_, .inr a.rewrite_listed⟩
  . change a.toJson.IsIntegral
    rw [a.toJson_eq_writer]
    exact a.writer.isIntegral_toJson
  . apply Json.IsIntegral.array
    intro t ht
    change t ∈ RecordKey.all.map a.writer.part at ht
    rcases List.mem_map.1 ht with ⟨k, -, rfl⟩
    exact a.writer.isIntegral_part k

/--
Every document from which a specification is loaded is written by the grammar, and the same
specification is loaded from every document that results if it is written differently any number of
times.
-/
theorem readSpecFile_of_rewrites {k : Kind} {path : Path} {s : Spec} {w : World} {bytes : Bytes}
    (hfile : w.files.read path = .ok bytes)
    (h : (readSpecFile k path : Simulation Spec) w = .ok s w)
    : (∃ t, Tree.IsWritten t (Utf8.decode bytes)) ∧
        ∀ bytes', Relation.ReflTransGen (Spec.DocumentRewrite k) bytes bytes' →
          ∀ (path' : Path) (w' : World), w'.files.read path' = .ok bytes' →
            (readSpecFile k path' : Simulation Spec) w' = .ok s w' := by
  rcases readSpecFile_eq_ok_iff.1 h with ⟨-, read, hread, hdoc, hvalid⟩
  rw [hfile, Except.ok.injEq] at hread
  subst hread
  constructor
  . exact Spec.exists_isWritten_of_ofDocument hdoc
  . intro bytes' hrewrites path' w' hfile'
    rw [readSpecFile_eq_ok_iff]
    exact ⟨rfl, bytes', hfile', Spec.ofDocument_of_reflTransGen hrewrites hdoc, hvalid⟩

theorem readSpecFile_of_rewrites_array
    : ∃ s : Spec, s = .arbiter ⟨"A", none, [⟨"uint256", "n"⟩]⟩ ∧
        ∃ bytes : Bytes,
          bytes = Utf8.encode (Json.pretty 0 (.array
            [.string "A", .null, FieldList.toJson [⟨"uint256", "n"⟩]]) ++ ['\n']) ∧
          (readSpecFile .arbiter "a.json" : Simulation Spec)
            (.ofFiles (.file "a.json" (Utf8.encode s.document) .empty) []) =
              .ok s (.ofFiles (.file "a.json" (Utf8.encode s.document) .empty) []) ∧
          (readSpecFile .arbiter "a.json" : Simulation Spec)
            (.ofFiles (.file "a.json" bytes .empty) []) =
              .ok s (.ofFiles (.file "a.json" bytes .empty) []) := by
  let a : Arbiter := ⟨"A", none, [⟨"uint256", "n"⟩]⟩
  have hvalid : (Spec.arbiter a).validate = .ok () := by
    decide
  have hfile : ∀ bytes : Bytes,
      (World.ofFiles (.file "a.json" bytes .empty) []).files.read "a.json" = .ok bytes := by
    intro bytes
    rfl
  have hload := readSpecFile_of_read (hfile (Utf8.encode (Spec.arbiter a).document))
  rw [hvalid] at hload
  refine ⟨.arbiter a, rfl, _, rfl, hload, ?_⟩
  apply (readSpecFile_of_rewrites (hfile _) hload).2 _ (.single a.documentRewrite_listed)
  apply hfile

end Scaffold
