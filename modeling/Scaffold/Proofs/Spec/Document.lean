import Scaffold.Proofs.Spec.Part
import Scaffold.Proofs.Spec.Record
import Scaffold.Spec.Document

/-!
This module contains the proof that a specification is read back from its document.
-/

namespace Scaffold

theorem Json.isIntegral_elim {α : Type} {write : α → Json} (h : ∀ a, (write a).IsIntegral)
    (o : Option α) : (o.elim .null write).IsIntegral := by
  cases o with
  | none => exact .null
  | some a => exact h a

namespace Obligation

def toRecord (o : Obligation) : Record ObligationKey
  | .name => o.name
  | .hasVerification => o.hasVerification
  | .isRevocable => o.isRevocable
  | .termCount => o.termCount
  | .dataFields => o.dataFields
  | .demandFields => o.demandFields

def writer (o : Obligation) : Record.Writer o.toRecord where
  part
    | .name => .string o.name
    | .hasVerification => .bool o.hasVerification
    | .isRevocable => .bool o.isRevocable
    | .termCount => .number (.integer o.termCount.toNat)
    | .dataFields => o.dataFields.toJson
    | .demandFields => o.demandFields.elim .null FieldList.toJson
  isWritten
    | .demandFields => o.demandFields.isSome
    | _ => true
  isIntegral_part k := by
    cases k with
    | name => exact .string
    | hasVerification => exact .bool
    | isRevocable => exact .bool
    | termCount => exact .number
    | dataFields => exact o.dataFields.isIntegral_toJson
    | demandFields => exact Json.isIntegral_elim FieldList.isIntegral_toJson o.demandFields
  read_part k := by
    cases k with
    | name => exact Tree.asText_string o.name
    | hasVerification => exact Tree.asFlag_bool o.hasVerification
    | isRevocable => exact Tree.asFlag_bool o.isRevocable
    | termCount => exact Tree.asCount_number o.termCount
    | dataFields => exact Tree.asFields_toJson o.dataFields
    | demandFields =>
      apply Tree.asOption_elim Tree.asFields_toJson
      intro fs hfs
      cases hfs
  default?_eq k h := by
    cases k with
    | demandFields =>
      change some none = some o.demandFields
      rw [Option.isSome_eq_false_iff, Option.isNone_iff_eq_none] at h
      rw [h]
    | _ => cases h

theorem toJson_eq_writer (o : Obligation) : o.toJson = o.writer.toJson := by
  rcases o with ⟨name, hasVerification, isRevocable, termCount, dataFields, demandFields⟩
  cases demandFields <;> rfl

end Obligation

namespace Arbiter

def toRecord (a : Arbiter) : Record ArbiterKey
  | .name => a.name
  | .base => a.base
  | .demandFields => a.demandFields

def writer (a : Arbiter) : Record.Writer a.toRecord where
  part
    | .name => .string a.name
    | .base => a.base.elim .null .string
    | .demandFields => a.demandFields.toJson
  isWritten
    | .base => a.base.isSome
    | _ => true
  isIntegral_part k := by
    cases k with
    | name => exact .string
    | base => exact Json.isIntegral_elim (fun _ => .string) a.base
    | demandFields => exact a.demandFields.isIntegral_toJson
  read_part k := by
    cases k with
    | name => exact Tree.asText_string a.name
    | base =>
      apply Tree.asOption_elim Tree.asText_string
      intro s hs
      cases hs
    | demandFields => exact Tree.asFields_toJson a.demandFields
  default?_eq k h := by
    cases k with
    | base =>
      change some none = some a.base
      rw [Option.isSome_eq_false_iff, Option.isNone_iff_eq_none] at h
      rw [h]
    | _ => cases h

theorem toJson_eq_writer (a : Arbiter) : a.toJson = a.writer.toJson := by
  rcases a with ⟨name, base, demandFields⟩
  cases base <;> rfl

end Arbiter

namespace Spec

/--
Every specification is read back from its document, whether it is valid or not.
-/
theorem ofDocument_document (s : Spec) : ofDocument (Utf8.encode s.document) s.kind = .ok s := by
  cases s with
  | obligation o =>
    unfold document toJson kind ofDocument
    dsimp only
    rw [o.toJson_eq_writer]
    rw [o.writer.ofDocument_toJson]
    rfl
  | arbiter a =>
    unfold document toJson kind ofDocument
    dsimp only
    rw [a.toJson_eq_writer]
    rw [a.writer.ofDocument_toJson]
    rfl

example : (obligation ⟨"Deal", true, true, 2, [⟨"address", "to"⟩], some []⟩).document =
    Text.unlines [
      "\x7b",
      "  \"name\": \"Deal\",",
      "  \"has_verification\": true,",
      "  \"is_revocable\": true,",
      "  \"finalization_term_count\": 2,",
      "  \"data_fields\": [",
      "    \x7b",
      "      \"type_name\": \"address\",",
      "      \"identifier\": \"to\"",
      "    \x7d",
      "  ],",
      "  \"demand_fields\": []",
      "\x7d"] := by
  decide +kernel

end Spec

end Scaffold
