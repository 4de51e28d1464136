import Scaffold.Proofs.Field.List
import Scaffold.Spec.Validity

/-!
This module contains the conditions under which a specification passes its check, each said of the
parts of the specification on their own.
-/

namespace Scaffold

theorem checkName_eq_ok_iff {name : Text} : checkName name = .ok () ↔ name.isIdentifier = true := by
  unfold checkName
  constructor
  . intro h
    split at h
    . simp at h
    . split at h
      . simp at h
      . next hname => simpa using hname
  . intro h
    rcases Text.isWord_of_isIdentifier h with ⟨hne, hspace⟩
    have hblank : name.isBlank = false := by
      rcases List.exists_cons_of_ne_nil hne with ⟨c, s, rfl⟩
      simp [Text.isBlank, hspace c (by simp)]
    simp [hblank, h]

theorem checkFields_eq_ok_iff {role : FieldsRole} {fs : FieldList}
    : checkFields role fs = .ok () ↔ fs.IsValid := by
  unfold checkFields
  constructor
  . intro h
    split at h
    . simp at h
    . next hne =>
      rw [Except.mapError_eq_ok_iff, FieldList.check_eq_ok_iff] at h
      exact ⟨by simpa using hne, h⟩
  . intro h'
    rcases h' with ⟨hne, h⟩
    rw [if_neg (by simpa using hne)]
    rw [Except.mapError_eq_ok_iff, FieldList.check_eq_ok_iff]
    exact h

theorem isIdentifier_of_isBaseName {own base : Text} (h : isBaseName own base = true)
    : base.isIdentifier = true := by
  simp only [isBaseName, Bool.and_eq_true] at h
  apply h.1.1

namespace Obligation

/--
The specifications of obligations that make sense. Demand fields without verification can be
anything.
-/
structure IsValid (o : Obligation) : Prop where
  name : o.name.isIdentifier = true
  dataFields : o.dataFields.IsValid
  demandFields : o.hasVerification = true → ∃ demand, o.demandFields = some demand ∧ demand.IsValid

theorem validate_eq_ok_iff {o : Obligation} : o.validate = .ok () ↔ o.IsValid := by
  unfold validate
  rw [Except.unit_bind_eq_ok_iff, Except.unit_bind_eq_ok_iff]
  rw [checkName_eq_ok_iff, checkFields_eq_ok_iff]
  constructor
  . intro h
    rcases h with ⟨hname, hdata, h⟩
    refine ⟨hname, hdata, ?_⟩
    intro hverification
    rw [if_pos hverification] at h
    cases hd : o.demandFields with
    | none =>
      rw [hd] at h
      cases h
    | some demand =>
      rw [hd] at h
      exact ⟨demand, rfl, checkFields_eq_ok_iff.1 h⟩
  . intro h
    refine ⟨h.name, h.dataFields, ?_⟩
    cases hverification : o.hasVerification with
    | false => rfl
    | true =>
      rcases h.demandFields hverification with ⟨demand, hd, hdemand⟩
      rw [if_pos rfl, hd]
      apply checkFields_eq_ok_iff.2 hdemand

end Obligation

namespace Arbiter

structure IsValid (a : Arbiter) : Prop where
  name : a.name.isIdentifier = true
  base : ∀ base ∈ a.base, isBaseName a.name base = true
  demandFields : a.demandFields.IsValid

theorem validate_eq_ok_iff {a : Arbiter} : a.validate = .ok () ↔ a.IsValid := by
  unfold validate
  rw [Except.unit_bind_eq_ok_iff]
  rw [checkName_eq_ok_iff]
  constructor
  . intro h'
    rcases h' with ⟨hname, h⟩
    cases hbase : a.base with
    | none =>
      rw [hbase] at h
      exact ⟨hname, by simp [hbase], checkFields_eq_ok_iff.1 h⟩
    | some base =>
      simp only [hbase] at h
      split at h
      . simp at h
      . next hb =>
        exact ⟨hname, by simpa [hbase] using hb, checkFields_eq_ok_iff.1 h⟩
  . intro h'
    rcases h' with ⟨hname, hbase, hdemand⟩
    refine ⟨hname, ?_⟩
    cases hb : a.base with
    | none => exact checkFields_eq_ok_iff.2 hdemand
    | some base =>
      simp only [hbase base hb]
      apply checkFields_eq_ok_iff.2 hdemand

end Arbiter

theorem Spec.isIdentifier_name {s : Spec} (h : s.validate = .ok ())
    : s.name.isIdentifier = true := by
  cases s with
  | obligation o => exact (Obligation.validate_eq_ok_iff.1 h).name
  | arbiter a => exact (Arbiter.validate_eq_ok_iff.1 h).name

end Scaffold
