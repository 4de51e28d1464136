import Mathlib.Data.List.Nodup
import Scaffold.Proofs.Solidity.Obligation
import Scaffold.Proofs.Solidity.Search

/-!
This module contains the methods of an obligation contract as they are found in its text: which
lines open a method, in which order they stand, and that no two methods have the same name. Fields
cannot be taken for methods, whatever their types are.
-/

namespace Scaffold

namespace Solidity

def opensMethod (l : Text) : Bool :=
  "  function ".toList.isPrefixOf l || "  constructor(".toList.isPrefixOf l

def methodName (l : Text) : Text :=
  l.takeWhile (· ≠ '(')

section Lines

variable {l s t : Text}

theorem methodName_append (hs : '(' ∉ s) : methodName (s ++ '(' :: t) = s := by
  unfold methodName
  rw [List.takeWhile_append_of_pos]
  . simp
  . intro c hc
    rw [decide_eq_true_eq]
    intro heq
    subst heq
    exact hs hc

theorem opensMethod_indent_four (l : Text) : opensMethod (indent 4 l) = false := by
  unfold indent opensMethod
  repeat rw [String.toList_ofList]
  split
  . rfl
  . rfl

theorem opensMethod_fieldLine (f : Field) : opensMethod (fieldLine f) = false := by
  unfold fieldLine opensMethod
  repeat rw [String.toList_ofList]
  rfl

end Lines

/--
Only the heading of a method is at the depth at which methods are opened.
-/
theorem filter_opensMethod_method (heading body : List Text)
    : (method heading body).filter opensMethod = (heading.map (indent 2)).filter opensMethod := by
  have hbody : (body.map (indent 4)).filter opensMethod = [] := by
    rw [List.filter_eq_nil_iff]
    intro l hl
    rcases List.mem_map.1 hl with ⟨l', -, rfl⟩
    rw [opensMethod_indent_four]
    apply Bool.false_ne_true
  have hclosing : [indent 2 "\x7d"].filter opensMethod = [] := by
    unfold opensMethod
    repeat rw [String.toList_ofList]
    decide
  unfold method
  rw [List.filter_append, List.filter_append, hbody, hclosing]
  simp

theorem filter_opensMethod_structLines {name : Text} (fs : FieldList)
    : (structLines name fs).filter opensMethod = [] := by
  rw [List.filter_eq_nil_iff]
  intro l hl
  unfold structLines at hl
  simp only [List.mem_append, List.mem_map, List.mem_singleton] at hl
  rw [Bool.not_eq_true]
  rcases hl with (rfl | ⟨f, -, rfl⟩) | rfl
  . unfold opensMethod
    repeat rw [String.toList_ofList]
    rfl
  . apply opensMethod_fieldLine
  . unfold opensMethod
    repeat rw [String.toList_ofList]
    rfl

theorem filter_opensMethod_usingLines : usingLines.filter opensMethod = [] := by
  unfold usingLines opensMethod
  repeat rw [String.toList_ofList]
  rfl

namespace SourceFile

variable {imports : List Import} {l : Text}

theorem opensMethod_preamble (h : l ∈ preamble imports) : opensMethod l = false := by
  unfold opensMethod
  repeat rw [String.toList_ofList]
  rcases mem_preamble h with rfl | rfl | ⟨i, -, rfl⟩ | rfl
  . unfold license
    rw [String.toList_ofList]
    rfl
  . unfold pragma
    rw [String.toList_ofList]
    rfl
  . unfold Import.line
    repeat rw [String.toList_ofList]
    rfl
  . rfl

theorem opensMethod_heading (name : Text) (bases : List Text)
    : opensMethod (heading name bases) = false := by
  rcases exists_heading_eq name bases with ⟨t, ht⟩
  rw [ht]
  unfold opensMethod
  repeat rw [String.toList_ofList]
  rfl

theorem IsComposedOf.filter_opensMethod_lines {f : SourceFile} {blocks : List (List Text)}
    (h : f.IsComposedOf blocks)
    : f.text.lines.filter opensMethod = blocks.flatMap (List.filter opensMethod) := by
  apply h.filter_lines
  . intro l hl
    apply opensMethod_preamble hl
  . apply opensMethod_heading
  . unfold opensMethod
    repeat rw [String.toList_ofList]
    rfl
  . rfl

end SourceFile

end Solidity

namespace Obligation

open Solidity

def constructorHeading : Text :=
  "  constructor(IEAS _eas, ISchemaRegistry _schemaRegistry)"

def makeHeading : Text :=
  "  function makeObligation("

def finalizationHeading (index : Nat) : Text :=
  "  function finalize_".toList ++ Nat.toDigits 10 index ++
    "(bytes32 obligation) public returns (bool) \x7b"

def judgeHeading : Text :=
  "  function checkObligation("

theorem filter_opensMethod_constructorLines (o : Obligation)
    : o.constructorLines.filter opensMethod = [constructorHeading] := by
  unfold constructorLines opensMethod
  repeat rw [String.toList_ofList]
  rfl

theorem filter_opensMethod_makeLines (o : Obligation)
    : o.makeLines.filter opensMethod = [makeHeading] := by
  unfold makeLines makeHeading
  rw [filter_opensMethod_method]
  unfold opensMethod
  repeat rw [String.toList_ofList]
  decide

theorem filter_opensMethod_finalizationLines (index : Nat)
    : (finalizationLines index).filter opensMethod = [finalizationHeading index] := by
  unfold finalizationLines finalizationHeading
  rw [filter_opensMethod_method]
  unfold opensMethod
  repeat rw [String.toList_ofList]
  rfl

theorem filter_opensMethod_checkLines : checkLines.filter opensMethod = [judgeHeading] := by
  unfold checkLines checkHeading judgeHeading
  rw [filter_opensMethod_method]
  unfold opensMethod
  repeat rw [String.toList_ofList]
  decide

def methodHeadings (o : Obligation) : List Text :=
  constructorHeading :: makeHeading :: ((List.range o.terms).map finalizationHeading ++
    if o.hasVerification then [judgeHeading] else [])

theorem flatMap_filter_opensMethod_blocks (o : Obligation)
    : o.blocks.flatMap (List.filter opensMethod) = o.methodHeadings := by
  have hfinalization : ((List.range o.terms).map finalizationLines).flatMap
      (List.filter opensMethod) = (List.range o.terms).map finalizationHeading := by
    simp only [List.flatMap_map, filter_opensMethod_finalizationLines]
    exact List.map_eq_flatMap.symm
  unfold blocks methodHeadings verificationBlocks
  simp only [List.flatMap_append, List.flatMap_cons, List.flatMap_nil]
  rw [hfinalization, filter_opensMethod_structLines]
  rw [filter_opensMethod_constructorLines, filter_opensMethod_makeLines]
  cases o.hasVerification with
  | false => rfl
  | true =>
    simp [filter_opensMethod_usingLines, filter_opensMethod_structLines,
      filter_opensMethod_checkLines]

def finalizationName (index : Nat) : Text :=
  "  function finalize_".toList ++ Nat.toDigits 10 index

theorem methodName_finalizationHeading (index : Nat)
    : methodName (finalizationHeading index) = finalizationName index := by
  have hdigits : '(' ∉ Nat.toDigits 10 index := not_mem_toDigits (by decide) index
  unfold finalizationHeading finalizationName
  -- The digits stay a variable, so that only the text around them is evaluated.
  generalize Nat.toDigits 10 index = digits at hdigits
  repeat rw [String.toList_ofList]
  apply methodName_append
  simp [hdigits]

theorem finalizationName_injective : Function.Injective finalizationName := by
  intro i j h
  have hdigits : Nat.toDigits 10 i = Nat.toDigits 10 j := List.append_cancel_left h
  calc
    i = Nat.ofDigitChars 10 (Nat.toDigits 10 i) 0 := Nat.ofDigitChars_ten_toDigits.symm
    _ = Nat.ofDigitChars 10 (Nat.toDigits 10 j) 0 := by rw [hdigits]
    _ = j := Nat.ofDigitChars_ten_toDigits

theorem finalizationName_ne (index : Nat)
    : finalizationName index ≠ methodName constructorHeading ∧
      finalizationName index ≠ methodName makeHeading ∧
      finalizationName index ≠ methodName judgeHeading := by
  unfold finalizationName constructorHeading makeHeading judgeHeading
  repeat rw [String.toList_ofList]
  refine ⟨?_, ?_, ?_⟩
  . simp [methodName]
  . simp [methodName]
  . simp [methodName]

theorem map_methodName_methodHeadings (o : Obligation)
    : o.methodHeadings.map methodName =
        methodName constructorHeading :: methodName makeHeading ::
          ((List.range o.terms).map finalizationName ++
            if o.hasVerification then [methodName judgeHeading] else []) := by
  unfold methodHeadings
  rw [List.map_cons, List.map_cons, List.map_append, List.map_map]
  simp only [Function.comp_def, methodName_finalizationHeading]
  cases o.hasVerification
  . rfl
  . rfl

theorem nodup_methodName_methodHeadings (o : Obligation)
    : (o.methodHeadings.map methodName).Nodup := by
  have hfixed : methodName constructorHeading ≠ methodName makeHeading ∧
      methodName constructorHeading ≠ methodName judgeHeading ∧
      methodName makeHeading ≠ methodName judgeHeading := by
    unfold constructorHeading makeHeading judgeHeading
    repeat rw [String.toList_ofList]
    decide
  have hfinalization : ((List.range o.terms).map finalizationName).Nodup := by
    apply List.Nodup.map finalizationName_injective List.nodup_range
  rw [map_methodName_methodHeadings]
  cases o.hasVerification
  . simp [hfixed, hfinalization, finalizationName_ne]
  . simp [hfixed, hfinalization, finalizationName_ne, List.nodup_append]

theorem finalizationHeading_mem_methodHeadings_iff {o : Obligation} {index : Nat}
    : finalizationHeading index ∈ o.methodHeadings ↔ index < o.terms := by
  constructor
  . intro hmem
    -- Headings are compared by the names in them, by which the methods are told apart.
    have hname : finalizationName index ∈ o.methodHeadings.map methodName := by
      rw [← methodName_finalizationHeading]
      apply List.mem_map_of_mem hmem
    rw [map_methodName_methodHeadings] at hname
    have hrange : finalizationName index ∈ (List.range o.terms).map finalizationName := by
      cases hverification : o.hasVerification
      . simpa [hverification, finalizationName_ne] using hname
      . simpa [hverification, finalizationName_ne] using hname
    rw [List.mem_map_of_injective finalizationName_injective, List.mem_range] at hrange
    exact hrange
  . intro hindex
    unfold methodHeadings
    apply List.mem_cons_of_mem
    apply List.mem_cons_of_mem
    apply List.mem_append_left
    apply List.mem_map_of_mem
    rw [List.mem_range]
    exact hindex

theorem opensMethod_finalizationHeading (index : Nat)
    : opensMethod (finalizationHeading index) = true := by
  unfold finalizationHeading opensMethod
  repeat rw [String.toList_ofList]
  rfl

/--
The methods of a contract are the constructor, the method that makes an obligation, one method for
each way to end it, numbered from zero, and the method that judges obligations if there is
verification. They stand in this order, and no two of them have the same name. An obligation that
cannot be revoked has no method to end it.
-/
theorem methods_source (o : Obligation) (h : o.validate = .ok ())
    : o.source.lines.filter opensMethod =
        constructorHeading :: makeHeading :: ((List.range o.terms).map finalizationHeading ++
          if o.hasVerification then [judgeHeading] else []) ∧
      ((o.source.lines.filter opensMethod).map methodName).Nodup ∧
      (∀ index, finalizationHeading index ∈ o.source.lines ↔ index < o.terms) ∧
      (o.isRevocable = false → o.terms = 0) := by
  have hlines : o.source.lines.filter opensMethod = o.methodHeadings := by
    rw [validate_eq_ok_iff] at h
    rw [← flatMap_filter_opensMethod_blocks]
    apply (isComposedOf_sourceFile h).filter_opensMethod_lines
  refine ⟨hlines, ?_, ?_, ?_⟩
  . rw [hlines]
    apply nodup_methodName_methodHeadings
  . intro index
    rw [← finalizationHeading_mem_methodHeadings_iff, ← hlines, List.mem_filter]
    simp [opensMethod_finalizationHeading]
  . intro hrevocable
    unfold terms
    rw [hrevocable]
    rfl

theorem methods_source_finalize
    : Obligation.validate ⟨"A", true, true, 11, [⟨"function finalize_0", "f"⟩],
        some [⟨"bytes32", "hash"⟩]⟩ = .ok () ∧
      finalizationHeading 10 ∈ (source ⟨"A", true, true, 11, [⟨"function finalize_0", "f"⟩],
        some [⟨"bytes32", "hash"⟩]⟩).lines ∧
      Obligation.validate ⟨"A", false, false, 11, [⟨"function finalize_0", "f"⟩], none⟩ = .ok () ∧
      (source ⟨"A", false, false, 11, [⟨"function finalize_0", "f"⟩], none⟩).lines.filter
        opensMethod = [constructorHeading, makeHeading] := by
  have hrevocable : Obligation.validate ⟨"A", true, true, 11, [⟨"function finalize_0", "f"⟩],
      some [⟨"bytes32", "hash"⟩]⟩ = .ok () := by
    decide
  have hirrevocable : Obligation.validate
      ⟨"A", false, false, 11, [⟨"function finalize_0", "f"⟩], none⟩ = .ok () := by
    decide
  refine ⟨hrevocable, ?_, hirrevocable, ?_⟩
  . rw [(methods_source _ hrevocable).2.2.1]
    decide
  . rcases methods_source _ hirrevocable with ⟨hlines, -, -, hterms⟩
    rw [hlines, hterms rfl]
    rfl

end Obligation

end Scaffold
