import Scaffold.Proofs.Field.List

/-!
This module contains the grammar of field lists, said without the steps of reading one, and the
proof that reading accepts the lists of this grammar and no others. Where a list is refused, the
first entry that breaks the grammar decides why.
-/

namespace Scaffold

abbrev CharClass := List (Char × Char)

namespace CharClass

def Has (cs : CharClass) (c : Char) : Prop :=
  ∃ r ∈ cs, r.1 ≤ c ∧ c ≤ r.2

/--
The class `[A-Za-z_$]`.
-/
def identifierStart : CharClass :=
  [('A', 'Z'), ('a', 'z'), ('_', '_'), ('$', '$')]

/--
The class `[A-Za-z0-9_$]`.
-/
def identifierPart : CharClass :=
  [('A', 'Z'), ('a', 'z'), ('0', '9'), ('_', '_'), ('$', '$')]

/--
The class `[A-Za-z0-9_$.[]()<>= ]`.
-/
def typePart : CharClass :=
  identifierPart ++ [('.', '.'), ('[', '['), (']', ']'), ('(', '('), (')', ')'), ('<', '<'),
    ('>', '>'), ('=', '='), (' ', ' ')]

section

variable {c : Char}

theorem not_has_nil : ¬Has [] c := by
  simp [Has]

theorem has_cons {a b : Char} {cs : CharClass}
    : Has ((a, b) :: cs) c ↔ (a ≤ c ∧ c ≤ b) ∨ Has cs c := by
  simp [Has]

theorem has_cons_self {a : Char} {cs : CharClass} : Has ((a, a) :: cs) c ↔ c = a ∨ Has cs c := by
  rw [has_cons]
  constructor
  . intro h
    rcases h with ⟨hlow, hhigh⟩ | h
    . exact .inl (Char.le_antisymm hhigh hlow)
    . exact .inr h
  . intro h
    rcases h with rfl | h
    . exact .inl ⟨Char.le_refl c, Char.le_refl c⟩
    . exact .inr h

theorem isUpper_iff : c.isUpper = true ↔ 'A' ≤ c ∧ c ≤ 'Z' :=
  decide_eq_true_iff

theorem isLower_iff : c.isLower = true ↔ 'a' ≤ c ∧ c ≤ 'z' :=
  Bool.and_eq_true_iff.trans (and_congr decide_eq_true_iff decide_eq_true_iff)

theorem isDigit_iff : c.isDigit = true ↔ '0' ≤ c ∧ c ≤ '9' :=
  Bool.and_eq_true_iff.trans (and_congr decide_eq_true_iff decide_eq_true_iff)

theorem isAlpha_iff : c.isAlpha = true ↔ c.isUpper = true ∨ c.isLower = true :=
  Bool.or_eq_true_iff

theorem isAlphanum_iff : c.isAlphanum = true ↔ c.isAlpha = true ∨ c.isDigit = true :=
  Bool.or_eq_true_iff

theorem startsIdentifier_iff : startsIdentifier c = true ↔ identifierStart.Has c := by
  unfold startsIdentifier identifierStart
  simp only [has_cons_self, has_cons, not_has_nil, or_false, Bool.or_eq_true, decide_eq_true_eq,
    isAlpha_iff, isUpper_iff, isLower_iff, or_assoc]

theorem continuesIdentifier_iff : continuesIdentifier c = true ↔ identifierPart.Has c := by
  unfold continuesIdentifier identifierPart
  simp only [has_cons_self, has_cons, not_has_nil, or_false, Bool.or_eq_true, decide_eq_true_eq,
    isAlphanum_iff, isAlpha_iff, isUpper_iff, isLower_iff, isDigit_iff, or_assoc]

theorem has_append {cs ds : CharClass} : Has (cs ++ ds) c ↔ Has cs c ∨ Has ds c := by
  simp [Has, or_and_right, exists_or]

theorem continuesType_iff : continuesType c = true ↔ typePart.Has c := by
  unfold continuesType typePart
  rw [has_append, ← continuesIdentifier_iff]
  simp only [has_cons_self, not_has_nil, or_false, Bool.or_eq_true, decide_eq_true_eq, or_assoc]

end

end CharClass

namespace Text

def Matches (first rest : CharClass) (s : Text) : Prop :=
  ∃ c t, s = c :: t ∧ first.Has c ∧ ∀ d ∈ t, rest.Has d

theorem isIdentifier_iff_matches {s : Text}
    : s.isIdentifier = true ↔ s.Matches .identifierStart .identifierPart := by
  cases s with
  | nil => simp [isIdentifier, Matches]
  | cons c t =>
    simp [isIdentifier, Matches, CharClass.startsIdentifier_iff,
      CharClass.continuesIdentifier_iff]

theorem isTypeName_iff_matches {s : Text}
    : s.isTypeName = true ↔ s.Matches .identifierStart .typePart := by
  cases s with
  | nil => simp [isTypeName, Matches]
  | cons c t =>
    simp [isTypeName, Matches, CharClass.startsIdentifier_iff, CharClass.continuesType_iff]

end Text

namespace Field

/--
Whether a field is written in an entry: a type of at least one word, and a name behind it. Brackets
are properly nested.
-/
structure IsEntry (entry : Text) (f : Field) : Prop where
  words : ∃ ts, ts ≠ [] ∧ entry.words = ts ++ [f.name] ∧ f.typeName = Text.join [' '] ts
  typeName : f.typeName.Matches .identifierStart .typePart
  name : f.name.Matches .identifierStart .identifierPart
  nested : Brackets.Nested .ofTypes (entry.filter (Brackets.isBracket .ofTypes))

theorem ofEntry_eq_ok_iff_isEntry {e : Text} {f : Field} : ofEntry e = .ok f ↔ IsEntry e f := by
  rw [ofEntry_eq_ok_iff, isBalanced_flatten_words, Text.isBalanced_iff_nested]
  rw [Text.isTypeName_iff_matches, Text.isIdentifier_iff_matches]
  constructor
  . intro h
    rcases h with ⟨ts, hwords, hne, hnested, htype, hmatches, hname⟩
    exact ⟨⟨ts, hne, hwords, htype⟩, hmatches, hname, hnested⟩
  . intro h
    rcases h with ⟨⟨ts, hne, hwords, htype⟩, hmatches, hname, hnested⟩
    exact ⟨ts, hwords, hne, hnested, htype, hmatches, hname⟩

theorem IsEntry.declaration_eq {e : Text} {f : Field} (h : IsEntry e f)
    : f.declaration = e.collapse := by
  rcases h.words with ⟨ts, hne, hwords, htype⟩
  unfold Text.collapse declaration
  rw [hwords, htype, Text.join_concat _ hne]
  rfl

theorem ofEntry_eq_blank_iff {e : Text} : ofEntry e = .error .blank ↔ e.isBlank = true := by
  rw [← Text.words_eq_nil_iff, ← List.reverse_eq_nil_iff]
  unfold ofEntry
  constructor
  . intro h
    split at h
    . next hwords => exact hwords
    . dsimp only at h
      split at h
      . cases h
      . split at h
        . cases h
        . split at h
          . cases h
          . split at h
            . cases h
            . cases h
  . intro h
    rw [h]

end Field

namespace FieldList

open Scaffold.Field

def pieces (raw : Text) : List Text :=
  raw.splitWhen (· = ',')

theorem pieces_eq_singleton {raw e : Text} (h : e ∈ pieces raw) : pieces e = [e] :=
  Text.splitWhen_eq_singleton (Text.not_of_mem_splitWhen h)

theorem exists_of_ofEntries_eq_error {index : Nat} {es : List Text} {e : FieldListError}
    (h : ofEntries index es = .error e)
    : ∃ before entry after cause, es = before ++ entry :: after ∧
        (∀ d ∈ before, ∃ f, ofEntry d = .ok f) ∧ ofEntry entry = .error cause ∧
        e = .entry (index + before.length) cause := by
  induction es generalizing index with
  | nil => cases h
  | cons d es ih =>
    rw [ofEntries] at h
    cases hd : ofEntry d with
    | error cause =>
      rw [hd] at h
      cases h
      exact ⟨[], d, es, cause, rfl, by simp, hd, rfl⟩
    | ok f =>
      rw [hd] at h
      rw [Except.map_eq_error_iff] at h
      rcases ih h with ⟨before, entry, after, cause, rfl, hbefore, hentry, rfl⟩
      refine ⟨d :: before, entry, after, cause, rfl, ?_, hentry, ?_⟩
      . intro b hb
        rcases List.mem_cons.1 hb with rfl | hb
        . exact ⟨f, hd⟩
        . exact hbefore b hb
      . rw [List.length_cons]
        congr 1
        omega

theorem parse_eq_empty_iff {raw : Text}
    : parse raw = .error .empty ↔ ∀ c ∈ raw, isSpace c = true := by
  rw [← List.all_eq_true]
  unfold parse Text.isBlank
  constructor
  . intro h
    split at h
    . next hblank => exact hblank
    . rcases exists_of_ofEntries_eq_error h with ⟨_, _, _, _, _, _, _, he⟩
      cases he
  . intro h
    rw [if_pos h]

theorem signature_eq_collapse {es : List Text} {fs : FieldList} (h : List.Forall₂ IsEntry es fs)
    : signature fs = Text.join ", " (es.map Text.collapse) := by
  unfold signature
  congr 1
  induction h with
  | nil => rfl
  | cons hentry _ ih => rw [List.map_cons, List.map_cons, hentry.declaration_eq, ih]

theorem exists_forall₂_iff {es : List Text}
    : (∃ fs, List.Forall₂ IsEntry es fs) ↔ ∀ e ∈ es, ∃ f, IsEntry e f := by
  induction es with
  | nil => simp
  | cons e es ih =>
    simp only [List.forall₂_cons_left_iff, List.forall_mem_cons, ← ih]
    constructor
    . intro h
      rcases h with ⟨_, f, fs, hf, hfs, rfl⟩
      exact ⟨⟨f, hf⟩, fs, hfs⟩
    . intro h
      rcases h with ⟨⟨f, hf⟩, fs, hfs⟩
      exact ⟨f :: fs, f, fs, hf, hfs, rfl⟩

theorem parse_of_not_blank {raw : Text} (h : ¬∀ c ∈ raw, isSpace c = true)
    : parse raw = ofEntries 0 (pieces raw) := by
  rw [← List.all_eq_true] at h
  unfold parse Text.isBlank
  rw [if_neg h]
  rfl

/--
A field list is read exactly if every piece of it is an entry. The fields are those of the entries,
and their signature is the list with its white space normalized. Otherwise the list is blank, or the
first piece that is no entry is refused, for the reason for which it would be refused by itself.
-/
theorem parse_iff_isEntry (raw : Text)
    : (parse raw = .error .empty ↔ ∀ c ∈ raw, isSpace c = true) ∧
      ((∃ fs, parse raw = .ok fs) ↔ ∀ e ∈ pieces raw, ∃ f, IsEntry e f) ∧
      (∀ fs, parse raw = .ok fs →
        List.Forall₂ IsEntry (pieces raw) fs ∧
          signature fs = Text.join ", " ((pieces raw).map Text.collapse)) ∧
      ∀ err, (¬∀ c ∈ raw, isSpace c = true) → parse raw = .error err →
        ∃ before entry after cause, pieces raw = before ++ entry :: after ∧
          (∀ e ∈ before, ∃ f, IsEntry e f) ∧ (¬∃ f, IsEntry entry f) ∧
          err = .entry before.length cause ∧ (cause = .blank ↔ ∀ c ∈ entry, isSpace c = true) ∧
          ((¬∀ c ∈ entry, isSpace c = true) → parse entry = .error (.entry 0 cause)) := by
  have hok : ∀ fs, parse raw = .ok fs ↔ List.Forall₂ IsEntry (pieces raw) fs := by
    intro fs
    rw [parse_eq_ok_iff]
    simp only [ofEntry_eq_ok_iff_isEntry]
    rfl
  refine ⟨parse_eq_empty_iff, ?_, ?_, ?_⟩
  . simp only [hok]
    exact exists_forall₂_iff
  . intro fs h
    have hentries := (hok fs).1 h
    exact ⟨hentries, signature_eq_collapse hentries⟩
  . intro err hraw h
    rw [parse_of_not_blank hraw] at h
    rcases exists_of_ofEntries_eq_error h with ⟨before, entry, after, cause, hpieces, hbefore, hentry, herr⟩
    rw [Nat.zero_add] at herr
    simp only [ofEntry_eq_ok_iff_isEntry] at hbefore
    refine ⟨before, entry, after, cause, hpieces, hbefore, ?_, herr, ?_, ?_⟩
    . intro hf
      rcases hf with ⟨f, hf⟩
      rw [← ofEntry_eq_ok_iff_isEntry, hentry] at hf
      cases hf
    . rw [← List.all_eq_true]
      change _ ↔ entry.isBlank = true
      rw [← ofEntry_eq_blank_iff, hentry, Except.error.injEq]
    . intro hblank
      have hmem : entry ∈ pieces raw := by
        rw [hpieces]
        simp
      rw [parse_of_not_blank hblank, pieces_eq_singleton hmem]
      unfold ofEntries
      rw [hentry]

theorem parse_iff_isEntry_comma
    : parse " bytes32[]\thashes ,uint256(a,".toList =
        .error (.entry 1 (.unbalanced "uint256(a")) ∧
      ∃ before entry after cause,
        pieces " bytes32[]\thashes ,uint256(a,".toList = before ++ entry :: after ∧
          (∀ e ∈ before, ∃ f, IsEntry e f) ∧ (¬∃ f, IsEntry entry f) ∧
          (FieldListError.entry 1 (.unbalanced "uint256(a")) = .entry before.length cause := by
  have hblank : ¬∀ c ∈ " bytes32[]\thashes ,uint256(a,".toList, isSpace c = true := by
    rw [← List.all_eq_true]
    decide
  have hparse : parse " bytes32[]\thashes ,uint256(a,".toList =
      .error (.entry 1 (.unbalanced "uint256(a")) := by
    decide
  rcases (parse_iff_isEntry " bytes32[]\thashes ,uint256(a,".toList).2.2.2 _ hblank hparse with
    ⟨before, entry, after, cause, hpieces, hbefore, hentry, herr, -⟩
  exact ⟨hparse, before, entry, after, cause, hpieces, hbefore, hentry, herr⟩

end FieldList

end Scaffold
