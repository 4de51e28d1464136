import Mathlib.Data.List.Infix
import Scaffold.Proofs.Solidity.Obligation
import Scaffold.Proofs.Solidity.Search

/-!
This module contains the places of an obligation contract at which its schema is stated: the line
that registers it, the structs, and the line that tells whether an obligation can be revoked. They
are found in the text of the contract, and what stands there is the schema of the specification.
-/

namespace Scaffold

namespace Solidity

def structHeading (name : Text) : Text :=
  "  struct ".toList ++ name ++ " \x7b".toList

def structClosing : Text := "  \x7d"

def opensStruct (l : Text) : Bool :=
  "  struct ".toList.isPrefixOf l

def registersSchema (l : Text) : Bool :=
  "    BaseObligation(_eas, _schemaRegistry, ".toList.isPrefixOf l

def setsRevocable (l : Text) : Bool :=
  decide ("revocable:".toList <:+: l)

def statesSchema (l : Text) : Bool :=
  opensStruct l || registersSchema l || setsRevocable l

def DeclaresField (l : Text) (f : Field) : Prop :=
  ∃ d, l = d ++ [';'] ∧ FieldList.parse d = .ok [f]

/--
Whether the lines of a source file declare one struct of the given name, and its members line by
line are the given fields.
-/
def DeclaresStruct (name : Text) (fs : FieldList) (lines : List Text) : Prop :=
  ∃ body, Text.bodies (structHeading name) structClosing lines = [body] ∧
    List.Forall₂ DeclaresField body fs

section Lines

variable {l : Text} {f : Field} {c : Char}

theorem setsRevocable_eq_false (h : ':' ∉ l) : setsRevocable l = false := by
  unfold setsRevocable
  rw [decide_eq_false_iff_not, String.toList_ofList]
  intro hpart
  exact h (hpart.subset (by decide))

theorem opensStruct_structHeading (name : Text) : opensStruct (structHeading name) = true := by
  unfold structHeading opensStruct
  repeat rw [String.toList_ofList]
  rfl

theorem structHeading_demandStruct_ne
    : structHeading demandStruct ≠ structHeading dataStruct := by
  unfold structHeading demandStruct dataStruct
  repeat rw [String.toList_ofList]
  decide

theorem registersSchema_structHeading (name : Text)
    : registersSchema (structHeading name) = false := by
  unfold structHeading registersSchema
  repeat rw [String.toList_ofList]
  rfl

theorem setsRevocable_structHeading {name : Text} (h : ':' ∉ name)
    : setsRevocable (structHeading name) = false := by
  apply setsRevocable_eq_false
  unfold structHeading
  repeat rw [String.toList_ofList]
  simp [h]

theorem statesSchema_eq_false (hstruct : opensStruct l = false) (hregisters : registersSchema l = false)
    (hcolon : ':' ∉ l)
    : statesSchema l = false := by
  unfold statesSchema
  rw [hstruct, hregisters, setsRevocable_eq_false hcolon]
  rfl

theorem statesSchema_fieldLine (h : f.check = .ok ()) : statesSchema (fieldLine f) = false := by
  apply statesSchema_eq_false
  . unfold fieldLine opensStruct
    repeat rw [String.toList_ofList]
    rfl
  . unfold registersSchema
    rw [← Bool.not_eq_true, List.isPrefixOf_iff_prefix]
    intro hfront
    rw [String.toList_ofList] at hfront
    exact not_mem_fieldLine h (by decide) (by decide) (hfront.subset (by decide : ',' ∈ _))
  . exact not_mem_fieldLine h (by decide) (by decide)

theorem declaresField_fieldLine (h : f.check = .ok ()) : DeclaresField (fieldLine f) f := by
  refine ⟨"    ".toList ++ f.declaration, ?_, ?_⟩
  . rfl
  . have hcomma : ',' ∉ "    ".toList ++ f.declaration := by
      intro hmem
      apply not_mem_fieldLine h (c := ',') (by decide) (by decide)
      exact List.mem_append_left _ hmem
    have hwords : Text.words ("    ".toList ++ f.declaration) = f.declaration.words := by
      rw [String.toList_ofList]
      repeat rw [List.cons_append, Text.words_cons_space (by decide)]
      rfl
    rw [FieldList.parse_eq_ok_iff, Text.splitWhen_eq_singleton]
    . apply List.Forall₂.cons
      . rw [Field.ofEntry_congr hwords]
        exact Field.check_eq_ok_iff.1 h
      . exact .nil
    . intro c hc
      rw [decide_eq_false_iff_not]
      intro heq
      subst heq
      exact hcomma hc

end Lines

section Structs

variable {name : Text} {fs : FieldList}

theorem filter_statesSchema_structLines (name : Text) (h : ∀ f ∈ fs, f.check = .ok ())
    : (structLines name fs).filter statesSchema = [structHeading name] := by
  have hheading : statesSchema (structHeading name) = true := by
    unfold statesSchema
    rw [opensStruct_structHeading]
    rfl
  have hfields : (fs.map fieldLine).filter statesSchema = [] := by
    rw [List.filter_eq_nil_iff]
    intro l hl
    rcases List.mem_map.1 hl with ⟨f, hf, rfl⟩
    rw [statesSchema_fieldLine (h f hf)]
    apply Bool.false_ne_true
  have hclosing : [structClosing].filter statesSchema = [] := by
    unfold structClosing statesSchema opensStruct registersSchema setsRevocable
    repeat rw [String.toList_ofList]
    decide
  change List.filter _ ([structHeading name] ++ _ ++ [structClosing]) = _
  rw [List.filter_append, List.filter_append, hfields, hclosing]
  rw [List.filter_cons_of_pos hheading]
  rfl

theorem declaresStruct_of_infix {lines : List Text} (hpart : structLines name fs <:+: lines)
    (hone : lines.filter (· = structHeading name) = [structHeading name])
    (hfs : ∀ f ∈ fs, f.check = .ok ())
    : DeclaresStruct name fs lines := by
  refine ⟨fs.map fieldLine, ?_, ?_⟩
  . apply Text.bodies_eq_singleton
    . exact hpart
    . exact hone
    . intro hmem
      rcases List.mem_map.1 hmem with ⟨f, -, hf⟩
      exact fieldLine_ne_brace f hf
  . rw [List.forall₂_map_left_iff, List.forall₂_same]
    intro f hf
    apply declaresField_fieldLine (hfs f hf)

end Structs

end Solidity

namespace Obligation

open Solidity SourceFile

def registrationLine (o : Obligation) : Text :=
  "    BaseObligation(_eas, _schemaRegistry, \"" ++ o.dataFields.signature ++ "\", " ++
    literal o.isRevocable ++ ")"

def revocableLine (o : Obligation) : Text :=
  "          revocable: ".toList ++ literal o.isRevocable ++ ","

def schemaLines (o : Obligation) : List Text :=
  structHeading dataStruct :: (if o.hasVerification then [structHeading demandStruct] else []) ++
    [o.registrationLine, o.revocableLine]

theorem statesSchema_preamble (o : Obligation)
    : ∀ l ∈ preamble (Import.resolve o.symbols), statesSchema l = false := by
  unfold symbols preamble importLines license pragma Import.resolve Import.table
  unfold statesSchema opensStruct registersSchema setsRevocable
  repeat rw [String.toList_ofList]
  cases o.hasVerification
  . cases o.isRevocable
    . decide +kernel
    . decide +kernel
  . cases o.isRevocable
    . decide +kernel
    . decide +kernel

theorem statesSchema_heading {o : Obligation} (h : o.IsValid)
    : statesSchema (heading o.sourceFile.name o.sourceFile.bases) = false := by
  have hname : ':' ∉ o.name := Text.not_mem_of_isIdentifier h.name (by decide)
  rcases exists_heading_eq o.sourceFile.name o.sourceFile.bases with ⟨t, ht⟩
  apply statesSchema_eq_false
  . rw [ht]
    unfold opensStruct
    repeat rw [String.toList_ofList]
    rfl
  . rw [ht]
    unfold registersSchema
    repeat rw [String.toList_ofList]
    rfl
  . unfold heading sourceFile Symbol.name
    repeat rw [String.toList_ofList]
    cases o.hasVerification
    . simp [hname]
    . simp [hname, Text.join_cons_cons]

theorem revocableLine_eq (o : Obligation)
    : o.revocableLine = List.replicate 10 ' ' ++
        if o.isRevocable then "revocable: true,".toList else "revocable: false," := by
  unfold revocableLine literal
  repeat rw [String.toList_ofList]
  cases o.isRevocable
  . rfl
  . rfl

theorem registersSchema_registrationLine (o : Obligation)
    : registersSchema o.registrationLine = true := by
  unfold registrationLine registersSchema
  repeat rw [String.toList_ofList]
  rfl

theorem filter_statesSchema_constructorLines (o : Obligation)
    : o.constructorLines.filter statesSchema = [o.registrationLine] := by
  have hregistration : statesSchema o.registrationLine = true := by
    unfold statesSchema
    rw [registersSchema_registrationLine, Bool.or_true, Bool.true_or]
  change List.filter _ [_, o.registrationLine, _] = _
  rw [List.filter_cons_of_neg, List.filter_cons_of_pos hregistration, List.filter_cons_of_neg]
  . rfl
  all_goals
    unfold statesSchema opensStruct registersSchema setsRevocable
    repeat rw [String.toList_ofList]
    decide

theorem filter_statesSchema_makeLines (o : Obligation)
    : o.makeLines.filter statesSchema = [o.revocableLine] := by
  unfold makeLines revocableLine literal
  unfold statesSchema opensStruct registersSchema setsRevocable
  repeat rw [String.toList_ofList]
  cases o.isRevocable
  . decide +kernel
  . decide +kernel

theorem filter_statesSchema_finalizationLines (index : Nat)
    : (finalizationLines index).filter statesSchema = [] := by
  have hdigits : ':' ∉ Nat.toDigits 10 index := not_mem_toDigits (by decide) index
  unfold finalizationLines method
  generalize Nat.toDigits 10 index = digits at hdigits
  repeat rw [String.toList_ofList]
  rw [List.map_cons, List.map_nil, List.singleton_append, List.cons_append]
  rw [List.filter_cons_of_neg]
  . unfold statesSchema opensStruct registersSchema setsRevocable
    repeat rw [String.toList_ofList]
    decide +kernel
  . rw [statesSchema_eq_false]
    . apply Bool.false_ne_true
    . unfold opensStruct
      rw [String.toList_ofList]
      rfl
    . unfold registersSchema
      rw [String.toList_ofList]
      rfl
    . simp [indent, hdigits]

theorem filter_statesSchema_usingLines : usingLines.filter statesSchema = [] := by
  unfold usingLines statesSchema opensStruct registersSchema setsRevocable
  repeat rw [String.toList_ofList]
  decide

theorem filter_statesSchema_checkLines : checkLines.filter statesSchema = [] := by
  unfold checkLines checkHeading statesSchema opensStruct registersSchema setsRevocable
  repeat rw [String.toList_ofList]
  decide +kernel

theorem filter_statesSchema_lines {o : Obligation} (h : o.IsValid)
    : o.source.lines.filter statesSchema = o.schemaLines := by
  have hfinalization : ((List.range o.terms).map finalizationLines).flatMap
      (List.filter statesSchema) = [] := by
    rw [List.flatMap_eq_nil_iff]
    intro b hb
    rcases List.mem_map.1 hb with ⟨index, -, rfl⟩
    apply filter_statesSchema_finalizationLines
  have hdata := filter_statesSchema_structLines dataStruct h.dataFields.check
  have hblocks : o.blocks.flatMap (List.filter statesSchema) = o.schemaLines := by
    unfold blocks schemaLines verificationBlocks
    simp only [List.flatMap_append, List.flatMap_cons, List.flatMap_nil]
    rw [hfinalization, hdata, filter_statesSchema_constructorLines, filter_statesSchema_makeLines]
    cases hverification : o.hasVerification with
    | false => rfl
    | true =>
      rcases h.demandFields hverification with ⟨fs, hfs, hvalid⟩
      simp only [if_true, List.flatMap_cons, List.flatMap_nil]
      rw [hfs, Option.getD_some, filter_statesSchema_structLines demandStruct hvalid.check]
      rw [filter_statesSchema_usingLines, filter_statesSchema_checkLines]
      rfl
  rw [← hblocks]
  apply (isComposedOf_sourceFile h).filter_lines
  . apply statesSchema_preamble
  . apply statesSchema_heading h
  . unfold statesSchema opensStruct registersSchema setsRevocable
    repeat rw [String.toList_ofList]
    decide
  . unfold statesSchema opensStruct registersSchema setsRevocable
    repeat rw [String.toList_ofList]
    decide

section SchemaLines

variable {o : Obligation} (h : o.IsValid)

theorem filter_registersSchema_schemaLines
    : o.schemaLines.filter registersSchema = [o.registrationLine] := by
  have hrevocable : registersSchema o.revocableLine = false := by
    unfold revocableLine registersSchema
    repeat rw [String.toList_ofList]
    rfl
  unfold schemaLines
  cases o.hasVerification
  . simp [registersSchema_structHeading, registersSchema_registrationLine, hrevocable]
  . simp [registersSchema_structHeading, registersSchema_registrationLine, hrevocable]

include h in
theorem setsRevocable_registrationLine : setsRevocable o.registrationLine = false := by
  have hsignature : ':' ∉ o.dataFields.signature := by
    intro hmem
    apply Text.forall_mem_join (p := (· ≠ ':')) _ _ _ hmem rfl
    . rw [String.toList_ofList]
      simp
    . intro d hd c hc
      rcases List.mem_map.1 hd with ⟨f, hf, rfl⟩
      have htype := Field.continuesType_of_mem_declaration (h.dataFields.check f hf) c hc
      exact ne_of_continuesType htype (by decide)
  apply setsRevocable_eq_false
  unfold registrationLine literal
  repeat rw [String.toList_ofList]
  cases o.isRevocable
  . simp [hsignature]
  . simp [hsignature]

include h in
theorem filter_setsRevocable_schemaLines
    : o.schemaLines.filter setsRevocable = [o.revocableLine] := by
  have hdata : setsRevocable (structHeading dataStruct) = false :=
    setsRevocable_structHeading (by decide)
  have hdemand : setsRevocable (structHeading demandStruct) = false :=
    setsRevocable_structHeading (by decide)
  have hrevocable : setsRevocable o.revocableLine = true := by
    unfold revocableLine setsRevocable
    rw [decide_eq_true_eq, List.append_assoc]
    repeat rw [String.toList_ofList]
    exact ⟨List.replicate 10 ' ', ' ' :: (literal o.isRevocable ++ [',']), rfl⟩
  have hregistration := setsRevocable_registrationLine h
  unfold schemaLines
  cases o.hasVerification
  . simp [hdata, hregistration, hrevocable]
  . simp [hdata, hdemand, hregistration, hrevocable]

theorem filter_opensStruct_schemaLines
    : o.schemaLines.filter opensStruct =
        structHeading dataStruct ::
          if o.hasVerification then [structHeading demandStruct] else [] := by
  have hregistration : opensStruct o.registrationLine = false := by
    unfold registrationLine opensStruct
    repeat rw [String.toList_ofList]
    rfl
  have hrevocable : opensStruct o.revocableLine = false := by
    unfold revocableLine opensStruct
    repeat rw [String.toList_ofList]
    rfl
  unfold schemaLines
  cases o.hasVerification
  . simp [opensStruct_structHeading, hregistration, hrevocable]
  . simp [opensStruct_structHeading, hregistration, hrevocable]

end SchemaLines

theorem splitWhen_registrationLine {o : Obligation} (h : o.IsValid)
    : Text.splitWhen (· = '"') o.registrationLine =
        ["    BaseObligation(_eas, _schemaRegistry, ".toList, o.dataFields.signature,
          if o.isRevocable then ", true)" else ", false)"] := by
  have hquotable := isQuotable_signature h.dataFields.check
  have hsignature : Text.splitWhen (· = '"') o.dataFields.signature = [o.dataFields.signature] := by
    apply Text.splitWhen_eq_singleton
    intro c hc
    rw [decide_eq_false_iff_not]
    exact (hquotable c hc).2
  have hline : o.registrationLine =
      "    BaseObligation(_eas, _schemaRegistry, ".toList ++ '"' :: (o.dataFields.signature ++
        '"' :: (", ".toList ++ literal o.isRevocable ++ ")".toList)) := by
    unfold registrationLine
    repeat rw [String.toList_ofList]
    simp
  rw [hline, Text.splitWhen_append_cons (by decide), Text.splitWhen_append_cons (by decide)]
  rw [hsignature]
  unfold literal
  repeat rw [String.toList_ofList]
  cases o.isRevocable
  . rfl
  . rfl

/--
Whether the schema of a specification, and no other, is found everywhere in the lines of a source
file where a schema is stated.
-/
structure HoldsSchema (o : Obligation) (lines : List Text) : Prop where
  /-- The signature stands between the two quotes of the only line that registers a schema. -/
  registration : ∃ l front, lines.filter registersSchema = [l] ∧
    Text.splitWhen (· = '"') l =
      [front, o.dataFields.signature, if o.isRevocable then ", true)" else ", false)"]
  signature : FieldList.parse o.dataFields.signature = .ok o.dataFields
  data : DeclaresStruct "ObligationData" o.dataFields lines
  demand : o.hasVerification = true →
    ∃ fs, o.demandFields = some fs ∧ DeclaresStruct "DemandData" fs lines
  no_demand : o.hasVerification = false → structHeading "DemandData" ∉ lines
  revocable : ∃ space : Text, (∀ c ∈ space, c = ' ') ∧ lines.filter setsRevocable =
    [space ++ if o.isRevocable then "revocable: true,".toList else "revocable: false,"]

section Lines

variable {o : Obligation} (h : o.IsValid)

include h

theorem filter_lines_of_imp {p : Text → Bool} (hp : ∀ l, p l = true → statesSchema l = true)
    : o.source.lines.filter p = o.schemaLines.filter p := by
  rw [← filter_statesSchema_lines h, Text.filter_filter_of_imp hp]

theorem filter_registersSchema_lines
    : o.source.lines.filter registersSchema = [o.registrationLine] := by
  rw [filter_lines_of_imp h (by simp +contextual [statesSchema])]
  apply filter_registersSchema_schemaLines

theorem filter_setsRevocable_lines
    : o.source.lines.filter setsRevocable = [o.revocableLine] := by
  rw [filter_lines_of_imp h (by simp +contextual [statesSchema])]
  apply filter_setsRevocable_schemaLines h

theorem filter_opensStruct_lines
    : o.source.lines.filter opensStruct =
        structHeading dataStruct ::
          if o.hasVerification then [structHeading demandStruct] else [] := by
  rw [filter_lines_of_imp h (by simp +contextual [statesSchema])]
  apply filter_opensStruct_schemaLines

theorem filter_eq_structHeading_lines (name : Text)
    : o.source.lines.filter (· = structHeading name) =
        (structHeading dataStruct ::
          if o.hasVerification then [structHeading demandStruct] else []).filter
            (· = structHeading name) := by
  rw [← filter_opensStruct_lines h, Text.filter_filter_of_imp]
  intro l hl
  rw [decide_eq_true_eq] at hl
  rw [hl, opensStruct_structHeading]

theorem declaresStruct_dataStruct : DeclaresStruct dataStruct o.dataFields o.source.lines := by
  apply declaresStruct_of_infix
  . apply (isComposedOf_sourceFile h).infix_lines
    simp [blocks]
  . rw [filter_eq_structHeading_lines h]
    cases o.hasVerification
    . simp
    . simp [structHeading_demandStruct_ne]
  . exact h.dataFields.check

theorem declaresStruct_demandStruct (hverification : o.hasVerification = true)
    : ∃ fs, o.demandFields = some fs ∧ DeclaresStruct demandStruct fs o.source.lines := by
  rcases h.demandFields hverification with ⟨fs, hfs, hvalid⟩
  refine ⟨fs, hfs, ?_⟩
  apply declaresStruct_of_infix
  . apply (isComposedOf_sourceFile h).infix_lines
    simp [blocks, mem_verificationBlocks, hverification, hfs]
  . rw [filter_eq_structHeading_lines h]
    simp [hverification, structHeading_demandStruct_ne.symm]
  . exact hvalid.check

theorem structHeading_demandStruct_not_mem (hverification : o.hasVerification = false)
    : structHeading demandStruct ∉ o.source.lines := by
  intro hmem
  have hheading : structHeading demandStruct ∈ o.source.lines.filter opensStruct :=
    List.mem_filter.2 ⟨hmem, opensStruct_structHeading _⟩
  rw [filter_opensStruct_lines h, hverification] at hheading
  simp [structHeading_demandStruct_ne] at hheading

end Lines

/--
The schema of a valid specification is the same wherever it is written in the contract.
-/
theorem holdsSchema_source (o : Obligation) (h : o.validate = .ok ())
    : o.HoldsSchema o.source.lines := by
  rw [validate_eq_ok_iff] at h
  constructor
  . exact ⟨o.registrationLine, _, filter_registersSchema_lines h, splitWhen_registrationLine h⟩
  . apply FieldList.parse_signature h.dataFields
  . apply declaresStruct_dataStruct h
  . apply declaresStruct_demandStruct h
  . apply structHeading_demandStruct_not_mem h
  . refine ⟨List.replicate 10 ' ', fun c => List.eq_of_mem_replicate, ?_⟩
    rw [filter_setsRevocable_lines h, revocableLine_eq]

theorem holdsSchema_source_demand
    : Obligation.validate ⟨"A", true, true, 1, [⟨"address payable", "to"⟩, ⟨"uint256[]", "ids"⟩],
        some [⟨"bytes32", "hash"⟩]⟩ = .ok () ∧
      HoldsSchema ⟨"A", true, true, 1, [⟨"address payable", "to"⟩, ⟨"uint256[]", "ids"⟩],
        some [⟨"bytes32", "hash"⟩]⟩
        (source ⟨"A", true, true, 1, [⟨"address payable", "to"⟩, ⟨"uint256[]", "ids"⟩],
          some [⟨"bytes32", "hash"⟩]⟩).lines := by
  have hvalid : Obligation.validate ⟨"A", true, true, 1,
      [⟨"address payable", "to"⟩, ⟨"uint256[]", "ids"⟩], some [⟨"bytes32", "hash"⟩]⟩ = .ok () := by
    decide
  exact ⟨hvalid, holdsSchema_source _ hvalid⟩

end Obligation

end Scaffold
