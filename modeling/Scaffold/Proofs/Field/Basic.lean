import Scaffold.Field.Basic
import Scaffold.Proofs.Text.Words

/-!
This module contains what the characters of identifiers and types can be: an identifier is a word,
every character of an identifier can stand in a type, and what cannot stand in a type stands in no
declaration of a field.
-/

namespace Scaffold

theorem toNat_of_continuesIdentifier {c : Char} (h : continuesIdentifier c = true)
    : 0x20 < c.toNat ∧ c.toNat < 0x80 := by
  have hupper : c.isUpper = true → 65 ≤ c.toNat ∧ c.toNat ≤ 90 := of_decide_eq_true
  have hlower : c.isLower = true → 97 ≤ c.toNat ∧ c.toNat ≤ 122 := by
    intro hc
    rcases Bool.and_eq_true_iff.1 hc with ⟨hlow, hhigh⟩
    exact ⟨of_decide_eq_true hlow, of_decide_eq_true hhigh⟩
  have hdigit : c.isDigit = true → 48 ≤ c.toNat ∧ c.toNat ≤ 57 := Char.isDigit_iff_toNat.1
  simp only [continuesIdentifier, Bool.or_eq_true, decide_eq_true_eq] at h
  rcases h with (h | rfl) | rfl
  . rcases Bool.or_eq_true_iff.1 h with h | h
    . rcases Bool.or_eq_true_iff.1 h with h | h
      . have hbounds := hupper h
        omega
      . have hbounds := hlower h
        omega
    . have hbounds := hdigit h
      omega
  . decide
  . decide

theorem isSpace_of_continuesIdentifier {c : Char} (h : continuesIdentifier c = true)
    : isSpace c = false := by
  rcases toNat_of_continuesIdentifier h with ⟨hlow, hhigh⟩
  apply isSpace_eq_false_of_lt hlow hhigh

theorem continuesIdentifier_of_startsIdentifier {c : Char} (h : startsIdentifier c = true)
    : continuesIdentifier c = true := by
  simp only [startsIdentifier, Bool.or_eq_true] at h
  rcases h with (h | h) | h
  . simp [continuesIdentifier, Char.isAlphanum, h]
  . simp [continuesIdentifier, h]
  . simp [continuesIdentifier, h]

theorem continuesType_of_continuesIdentifier {c : Char} (h : continuesIdentifier c = true)
    : continuesType c = true := by
  simp [continuesType, h]

theorem ne_of_continuesType {c d : Char} (hc : continuesType c = true)
    (hd : continuesType d = false)
    : c ≠ d := by
  intro heq
  subst heq
  rw [hc] at hd
  apply Bool.noConfusion hd

namespace Text

theorem continuesIdentifier_of_mem {s : Text} (h : s.isIdentifier = true)
    : ∀ c ∈ s, continuesIdentifier c = true := by
  cases s with
  | nil => simp
  | cons d s =>
    simp only [isIdentifier, Bool.and_eq_true, List.all_eq_true] at h
    intro c hc
    rcases List.mem_cons.1 hc with rfl | hc
    . apply continuesIdentifier_of_startsIdentifier h.1
    . apply h.2 c hc

theorem not_mem_of_isIdentifier {s : Text} (h : s.isIdentifier = true) {c : Char}
    (hc : continuesIdentifier c = false)
    : c ∉ s := by
  intro hmem
  rw [continuesIdentifier_of_mem h c hmem] at hc
  cases hc

theorem isWord_of_isIdentifier {s : Text} (h : s.isIdentifier = true) : IsWord s := by
  constructor
  . intro heq
    subst heq
    simp [isIdentifier] at h
  . intro c hc
    apply isSpace_of_continuesIdentifier (continuesIdentifier_of_mem h c hc)

theorem continuesType_of_mem {s : Text} (h : s.isTypeName = true)
    : ∀ c ∈ s, continuesType c = true := by
  cases s with
  | nil => simp
  | cons d s =>
    simp only [isTypeName, Bool.and_eq_true, List.all_eq_true] at h
    intro c hc
    rcases List.mem_cons.1 hc with rfl | hc
    . apply continuesType_of_continuesIdentifier (continuesIdentifier_of_startsIdentifier h.1)
    . apply h.2 c hc

theorem isSpace_of_mem_head?_isTypeName {s : Text} (h : s.isTypeName = true)
    : ∀ c ∈ s.head?, isSpace c = false := by
  cases s with
  | nil => simp
  | cons d s =>
    simp only [isTypeName, Bool.and_eq_true] at h
    intro c hc
    have heq : d = c := by simpa using hc
    subst heq
    apply isSpace_of_continuesIdentifier (continuesIdentifier_of_startsIdentifier h.1)

end Text

end Scaffold
