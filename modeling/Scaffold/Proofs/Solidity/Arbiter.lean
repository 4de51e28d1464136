import Scaffold.Proofs.Solidity.Obligation
import Scaffold.Solidity.Arbiter

/-!
This module contains the proof that the members of an arbiter contract are well formed.
-/

namespace Scaffold

namespace Arbiter

open Solidity

theorem isMember_errorLines : IsMember errorLines := by
  unfold errorLines mismatchError
  repeat rw [String.toList_ofList]
  constructor
  . decide
  . decide
  . decide

theorem isMember_plainConstructor : IsMember ["  constructor() \x7b\x7d"] := by
  rw [String.toList_ofList]
  constructor
  . decide
  . decide
  . decide

section Base

variable {base : Text} (hbase : IsPlain base)

include hbase

theorem isMember_reference
    : IsMember ["  ".toList ++ base ++ " public immutable baseObligation;"] := by
  repeat rw [String.toList_ofList]
  constructor
  . intro l hl
    rw [List.mem_singleton] at hl
    subst hl
    rw [List.append_assoc]
    apply IsLine.insert
    . decide
    . apply hbase.isQuotable
  . intro l hl
    rw [List.mem_singleton] at hl
    subst hl
    rfl
  . rw [Text.unlines_cons, List.append_assoc, List.append_assoc]
    rw [IsPlain.settles_append (by decide), hbase.settles_append]
    decide

theorem isMember_baseConstructor
    : IsMember [
        "  constructor(".toList ++ base ++ " _baseObligation) \x7b",
        "    baseObligation = _baseObligation;",
        "  \x7d"] := by
  repeat rw [String.toList_ofList]
  constructor
  . intro l hl
    simp only [List.mem_cons, List.not_mem_nil, or_false] at hl
    rcases hl with rfl | rfl | rfl
    . rw [List.append_assoc]
      apply IsLine.insert
      . decide
      . apply hbase.isQuotable
    . decide
    . decide
  . intro l hl
    simp only [List.mem_cons, List.not_mem_nil, or_false] at hl
    rcases hl with rfl | rfl | rfl
    all_goals rfl
  . rw [Text.unlines_cons, List.append_assoc, List.append_assoc]
    change brackets.settles [')'] (base ++ _) = true
    rw [hbase.settles_append]
    decide

end Base

theorem isMember_checkLines (specialized : Bool) : IsMember (checkLines specialized) := by
  unfold checkLines decodeLines acceptLines guardLine hintLine mismatchError
  repeat rw [String.toList_ofList]
  apply isMember_method
  . exact isLine_checkHeading
  . cases specialized
    . decide
    . decide
  . unfold checkHeading
    repeat rw [String.toList_ofList]
    cases specialized
    . decide +kernel
    . decide +kernel

theorem isPlain_base {a : Arbiter} (h : a.IsValid) {base : Text} (hbase : base ∈ a.base)
    : IsPlain base :=
  isPlain_of_isIdentifier (isIdentifier_of_isBaseName (h.base base hbase))

theorem isMember_of_mem_blocks {a : Arbiter} (h : a.IsValid) {b : List Text} (hb : b ∈ a.blocks)
    : IsMember b := by
  unfold blocks at hb
  simp only [List.mem_append, List.mem_cons, List.not_mem_nil, or_false] at hb
  rcases hb with ((rfl | rfl | rfl) | hb) | rfl
  . exact isMember_usingLines
  . apply isMember_structLines isPlain_demandStruct h.demandFields.check
  . exact isMember_errorLines
  . cases hbase : a.base with
    | none =>
      rw [hbase] at hb
      unfold constructorBlocks at hb
      rw [List.mem_singleton] at hb
      subst hb
      exact isMember_plainConstructor
    | some base =>
      have hplain := isPlain_base h hbase
      rw [hbase] at hb
      unfold constructorBlocks at hb
      simp only [List.mem_cons, List.not_mem_nil, or_false] at hb
      cases hb with
      | inl hb =>
        subst hb
        apply isMember_reference hplain
      | inr hb =>
        subst hb
        apply isMember_baseConstructor hplain
  . apply isMember_checkLines a.base.isSome

theorem isPlain_sibling {base : Text} (h : IsPlain base) : (Import.sibling base).IsPlain := by
  unfold Import.sibling fileName
  constructor
  . intro n hn
    rw [List.mem_singleton] at hn
    rw [hn]
    exact h
  . dsimp only
    repeat rw [String.toList_ofList]
    apply IsPlain.append
    . decide
    . apply IsPlain.append
      . exact h
      . decide

theorem isComposedOf_sourceFile {a : Arbiter} (h : a.IsValid)
    : a.sourceFile.IsComposedOf a.blocks := by
  constructor
  . rfl
  . intro i hi
    change i ∈ a.imports at hi
    unfold imports at hi
    rw [List.mem_append, List.mem_map] at hi
    rcases hi with hi | ⟨base, hbase, rfl⟩
    . apply Import.isPlain_of_mem_resolve hi
    . apply isPlain_sibling
      apply isPlain_base h
      apply Option.mem_toList.1 hbase
  . apply isPlain_of_isIdentifier h.name
  . intro b hb
    change b ∈ [Symbol.name .arbiter] at hb
    rw [List.mem_singleton] at hb
    rw [hb]
    apply isPlain_symbol .arbiter
  . intro b hb
    apply isMember_of_mem_blocks h hb

end Arbiter

namespace Spec

open Solidity

/--
The source of the contract that is composed from a valid specification is well formed.
-/
theorem wellFormed_source (s : Spec) (h : s.validate = .ok ()) : WellFormed s.source := by
  cases s with
  | obligation o =>
    have hvalid := Obligation.validate_eq_ok_iff.1 h
    exact (Obligation.isComposedOf_sourceFile hvalid).wellFormed
  | arbiter a =>
    have hvalid := Arbiter.validate_eq_ok_iff.1 h
    exact (Arbiter.isComposedOf_sourceFile hvalid).wellFormed

theorem wellFormed_source_payment
    : (Spec.obligation ⟨"Payment", true, true, 2, [⟨"function (uint256[2]) external", "callback"⟩],
        some [⟨"address payable", "recipient"⟩]⟩).validate = .ok () ∧
      WellFormed (Spec.obligation ⟨"Payment", true, true, 2,
        [⟨"function (uint256[2]) external", "callback"⟩],
        some [⟨"address payable", "recipient"⟩]⟩).source := by
  have hvalidate : (Spec.obligation ⟨"Payment", true, true, 2,
      [⟨"function (uint256[2]) external", "callback"⟩],
      some [⟨"address payable", "recipient"⟩]⟩).validate = .ok () := by
    repeat rw [String.toList_ofList]
    decide
  exact ⟨hvalidate, wellFormed_source _ hvalidate⟩

end Spec

end Scaffold
