import Scaffold.Proofs.Solidity.Source
import Scaffold.Proofs.Spec.Validity
import Scaffold.Solidity.Obligation

/-!
This module contains the proof that the members of an obligation contract are well formed.
-/

namespace Scaffold

namespace Solidity

theorem isPlain_symbol (s : Symbol) : IsPlain s.name := by
  cases s
  all_goals
    unfold Symbol.name
    rw [String.toList_ofList]
    decide

theorem Import.isPlain_of_mem_resolve {wanted : List Symbol} {i : Import}
    (h : i ∈ Import.resolve wanted) : i.IsPlain := by
  have htable : ∀ g ∈ Import.table, Solidity.IsPlain g.source := by
    unfold Import.table
    repeat rw [String.toList_ofList]
    decide
  unfold Import.resolve at h
  rcases List.mem_filterMap.1 h with ⟨g, hg, hi⟩
  unfold Import.Group.import? at hi
  split at hi
  . cases hi
  . cases hi
    constructor
    . intro n hn
      rcases List.mem_map.1 hn with ⟨s, hs, rfl⟩
      apply isPlain_symbol s
    . apply htable g hg

theorem isMember_usingLines : IsMember usingLines := by
  unfold usingLines
  rw [String.toList_ofList]
  constructor
  . decide
  . decide
  . decide

theorem isLine_checkHeading : ∀ l ∈ checkHeading, IsLine l := by
  unfold checkHeading
  repeat rw [String.toList_ofList]
  decide

theorem isPlain_dataStruct : IsPlain dataStruct := by
  unfold dataStruct
  rw [String.toList_ofList]
  decide

theorem isPlain_demandStruct : IsPlain demandStruct := by
  unfold demandStruct
  rw [String.toList_ofList]
  decide

end Solidity

namespace Obligation

open Solidity

theorem isMember_constructorLines {o : Obligation} (h : ∀ f ∈ o.dataFields, f.check = .ok ())
    : IsMember o.constructorLines := by
  have hquotable := isQuotable_signature h
  have hsettles := settles_signature h
  unfold constructorLines literal
  generalize o.dataFields.signature = signature at hquotable hsettles
  generalize o.isRevocable = isRevocable
  repeat rw [String.toList_ofList]
  simp only [List.append_assoc]
  constructor
  . intro l hl
    simp only [List.mem_cons, List.not_mem_nil, or_false] at hl
    rcases hl with rfl | rfl | rfl
    . decide
    . apply IsLine.insert
      . cases isRevocable
        . decide
        . decide
      . exact hquotable
    . decide
  . intro l hl
    simp only [List.mem_cons, List.not_mem_nil, or_false] at hl
    rcases hl with rfl | rfl | rfl
    all_goals rfl
  . apply settles_unlines
    intro l hl
    simp only [List.mem_cons, List.not_mem_nil, or_false] at hl
    rcases hl with rfl | rfl | rfl
    . decide
    -- The bracket in front of the signature is closed behind it.
    . change brackets.settles [')'] (signature ++ _) = true
      rw [Brackets.settles_nil_append hsettles]
      cases isRevocable
      . decide
      . decide
    . decide

theorem isMember_makeLines (o : Obligation) : IsMember o.makeLines := by
  unfold makeLines literal
  generalize o.isRevocable = isRevocable
  repeat rw [String.toList_ofList]
  apply isMember_method
  . decide
  . cases isRevocable
    . decide
    . decide
  . cases isRevocable
    . decide +kernel
    . decide +kernel

theorem isMember_finalizationLines (index : Nat) : IsMember (finalizationLines index) := by
  have hdigits := isPlain_toDigits index
  unfold finalizationLines
  generalize Nat.toDigits 10 index = digits at hdigits
  repeat rw [String.toList_ofList]
  apply isMember_method
  . intro l hl
    rw [List.mem_singleton] at hl
    subst hl
    rw [List.append_assoc]
    apply IsLine.insert
    . decide
    . apply hdigits.isQuotable
  . decide
  . rw [Text.unlines_append, Text.unlines_append, Text.unlines_cons, Text.unlines_nil]
    simp only [List.append_assoc]
    rw [IsPlain.settles_append (by decide), hdigits.settles_append]
    decide +kernel

theorem isMember_checkLines : IsMember checkLines := by
  unfold checkLines
  apply isMember_method
  . exact isLine_checkHeading
  . repeat rw [String.toList_ofList]
    decide
  . unfold checkHeading
    repeat rw [String.toList_ofList]
    decide +kernel

theorem mem_verificationBlocks {o : Obligation} {bs : List (List Text)} {b : List Text}
    : b ∈ o.verificationBlocks bs ↔ o.hasVerification = true ∧ b ∈ bs := by
  unfold verificationBlocks
  cases o.hasVerification <;> simp

theorem isMember_of_mem_blocks {o : Obligation} (h : o.IsValid) {b : List Text} (hb : b ∈ o.blocks)
    : IsMember b := by
  unfold blocks at hb
  simp only [List.mem_append, mem_verificationBlocks, List.mem_cons, List.not_mem_nil, or_false,
    List.mem_map] at hb
  rcases hb with ((((⟨-, rfl⟩ | rfl) | ⟨hverification, rfl⟩) | rfl | rfl) | ⟨index, -, rfl⟩) | ⟨-, rfl⟩
  . exact isMember_usingLines
  . apply isMember_structLines isPlain_dataStruct h.dataFields.check
  . rcases h.demandFields hverification with ⟨demand, hdemand, hvalid⟩
    rw [hdemand]
    apply isMember_structLines isPlain_demandStruct hvalid.check
  . apply isMember_constructorLines h.dataFields.check
  . apply isMember_makeLines o
  . apply isMember_finalizationLines index
  . exact isMember_checkLines

theorem isComposedOf_sourceFile {o : Obligation} (h : o.IsValid)
    : o.sourceFile.IsComposedOf o.blocks := by
  constructor
  . rfl
  . intro i hi
    change i ∈ Import.resolve o.symbols at hi
    apply Import.isPlain_of_mem_resolve hi
  . apply isPlain_of_isIdentifier h.name
  . intro b hb
    change b ∈ Symbol.name .baseObligation :: _ at hb
    rw [List.mem_cons] at hb
    cases hb with
    | inl hb =>
      rw [hb]
      apply isPlain_symbol .baseObligation
    | inr hb =>
      split at hb
      . rw [List.mem_singleton] at hb
        rw [hb]
        apply isPlain_symbol .arbiter
      . cases hb
  . intro b hb
    apply isMember_of_mem_blocks h hb

end Obligation

end Scaffold
