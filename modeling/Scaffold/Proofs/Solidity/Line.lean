import Scaffold.Proofs.Field.Brackets
import Scaffold.Proofs.Field.List
import Scaffold.Proofs.Text.Lines

/-!
This module contains what can stand in a line of source code: names, which can stand anywhere, and
declarations of fields and signatures, whose brackets are properly nested.
-/

namespace Scaffold

namespace Solidity

def brackets : Brackets :=
  .ofTypes ++ [('\x7b', '\x7d')]

/--
Whether a text can stand in a string: it holds no line feed and no quote.
-/
def IsQuotable (s : Text) : Prop :=
  ∀ c ∈ s, c ≠ '\n' ∧ c ≠ '"'

/--
Whether a text can stand anywhere in a line without a change to how the line is read: it can stand
in a string and holds no bracket.
-/
def IsPlain (s : Text) : Prop :=
  ∀ c ∈ s, (c ≠ '\n' ∧ c ≠ '"') ∧ brackets.isBracket c = false

/--
Whether a text can stand in a line: it holds no line feed, and all strings that it begins end in it.
-/
structure IsLine (l : Text) : Prop where
  newline : '\n' ∉ l
  quotes : l.count '"' % 2 = 0

instance (s : Text) : Decidable (IsQuotable s) :=
  List.decidableBAll _ s

instance (s : Text) : Decidable (IsPlain s) :=
  List.decidableBAll _ s

instance (l : Text) : Decidable (IsLine l) :=
  decidable_of_iff ('\n' ∉ l ∧ l.count '"' % 2 = 0)
    ⟨fun h => ⟨h.1, h.2⟩, fun h => ⟨h.newline, h.quotes⟩⟩

section Texts

variable {s t u : Text}

theorem IsPlain.append (hs : IsPlain s) (ht : IsPlain t) : IsPlain (s ++ t) := by
  intro c hc
  rw [List.mem_append] at hc
  cases hc with
  | inl hc => exact hs c hc
  | inr hc => exact ht c hc

theorem isPlain_comma : IsPlain ", " := by
  rw [String.toList_ofList]
  decide

theorem IsPlain.join_comma {ts : List Text} (h : ∀ t ∈ ts, IsPlain t)
    : IsPlain (Text.join ", " ts) :=
  Text.forall_mem_join isPlain_comma h

theorem IsPlain.isQuotable (h : IsPlain s) : IsQuotable s := by
  intro c hc
  exact (h c hc).1

theorem IsPlain.not_mem_of_isBracket (h : IsPlain s) {c : Char} (hc : brackets.isBracket c = true)
    : c ∉ s := by
  intro hmem
  rw [(h c hmem).2] at hc
  cases hc

theorem IsPlain.settles_append (h : IsPlain s) (due : List Char) (t : Text)
    : brackets.settles due (s ++ t) = brackets.settles due t := by
  apply Brackets.settles_nil_append
  apply Brackets.settles_of_forall_not_isBracket
  intro c hc
  exact (h c hc).2

theorem IsPlain.filter_isBracket (h : IsPlain s) : s.filter brackets.isBracket = [] := by
  rw [List.filter_eq_nil_iff]
  intro c hc
  rw [(h c hc).2]
  apply Bool.false_ne_true

theorem IsLine.insert (hsu : IsLine (s ++ u)) (ht : IsQuotable t) : IsLine (s ++ (t ++ u)) := by
  constructor
  . intro h
    rw [List.mem_append, List.mem_append] at h
    rcases h with h | h | h
    . apply hsu.newline (List.mem_append_left _ h)
    . exact (ht _ h).1 rfl
    . apply hsu.newline (List.mem_append_right _ h)
  . have hquote : '"' ∉ t := by
      intro h
      exact (ht _ h).2 rfl
    have hquotes := hsu.quotes
    rw [List.count_append] at hquotes
    rw [List.count_append, List.count_append, List.count_eq_zero_of_not_mem hquote]
    omega

end Texts

/-
Names, and the declarations of fields, can stand where they are put. Unlike names, declarations can
hold brackets, but only round and square ones.
-/
section Names

variable {c : Char} {s : Text} {f : Field}

theorem isPlain_of_continuesIdentifier (h : ∀ c ∈ s, continuesIdentifier c = true)
    : IsPlain s := by
  intro c hc
  have hne : ∀ d, continuesIdentifier d = false → c ≠ d := by
    intro d hd hcd
    subst hcd
    rw [h c hc] at hd
    cases hd
  refine ⟨⟨hne _ (by decide), hne _ (by decide)⟩, ?_⟩
  apply Brackets.isBracket_eq_false
  have hbrackets : ∀ b ∈ brackets,
      continuesIdentifier b.1 = false ∧ continuesIdentifier b.2 = false := by
    decide
  intro b hb
  exact ⟨hne _ (hbrackets b hb).1, hne _ (hbrackets b hb).2⟩

theorem isPlain_of_isIdentifier (h : s.isIdentifier = true) : IsPlain s :=
  isPlain_of_continuesIdentifier (Text.continuesIdentifier_of_mem h)

theorem continuesIdentifier_of_mem_toDigits {n : Nat} (h : c ∈ Nat.toDigits 10 n)
    : continuesIdentifier c = true := by
  have hdigit : c.isDigit = true := Nat.isDigit_of_mem_toDigits (by omega) (by omega) h
  simp [continuesIdentifier, Char.isAlphanum, hdigit]

theorem not_mem_toDigits (hc : continuesIdentifier c = false) (n : Nat)
    : c ∉ Nat.toDigits 10 n := by
  intro hmem
  rw [continuesIdentifier_of_mem_toDigits hmem] at hc
  cases hc

theorem isPlain_toDigits (n : Nat) : IsPlain (Nat.toDigits 10 n) := by
  apply isPlain_of_continuesIdentifier
  intro c hc
  apply continuesIdentifier_of_mem_toDigits hc

theorem isQuotable_declaration (h : f.check = .ok ()) : IsQuotable f.declaration := by
  intro c hc
  have htype := Field.continuesType_of_mem_declaration h c hc
  exact ⟨ne_of_continuesType htype (by decide), ne_of_continuesType htype (by decide)⟩

theorem settles_declaration (h : f.check = .ok ())
    : brackets.settles [] f.declaration = true := by
  rw [← Field.isBalanced_of_check h]
  unfold Text.isBalanced
  apply Brackets.settles_congr
  intro c hc
  have htype := Field.continuesType_of_mem_declaration h c hc
  have hopen : (c == '\x7b') = false := beq_false_of_ne (ne_of_continuesType htype (by decide))
  have hclose : c ≠ '\x7d' := ne_of_continuesType htype (by decide)
  unfold brackets Brackets.closer? Brackets.isCloser
  rw [List.lookup_append, List.any_append]
  simp [List.lookup_cons, hopen, hclose.symm]

theorem isQuotable_signature {fs : FieldList} (h : ∀ f ∈ fs, f.check = .ok ())
    : IsQuotable fs.signature := by
  apply Text.forall_mem_join
  . apply isPlain_comma.isQuotable
  . intro d hd
    rcases List.mem_map.1 hd with ⟨f, hf, rfl⟩
    apply isQuotable_declaration (h f hf)

theorem settles_join {sep : Text} {ts : List Text} (hsep : brackets.settles [] sep = true)
    (hts : ∀ t ∈ ts, brackets.settles [] t = true)
    : brackets.settles [] (Text.join sep ts) = true := by
  cases ts with
  | nil =>
    rw [Text.join_nil]
    rfl
  | cons t ts =>
    rw [Text.join_cons, List.flatMap_def]
    apply Brackets.settles_append_settles
    . apply hts t List.mem_cons_self
    . apply Brackets.settles_flatten
      intro u hu
      rcases List.mem_map.1 hu with ⟨v, hv, rfl⟩
      apply Brackets.settles_append_settles
      . exact hsep
      . apply hts v (List.mem_cons_of_mem _ hv)

theorem settles_signature {fs : FieldList} (h : ∀ f ∈ fs, f.check = .ok ())
    : brackets.settles [] fs.signature = true := by
  apply settles_join
  . rw [String.toList_ofList]
    decide
  . intro d hd
    rcases List.mem_map.1 hd with ⟨f, hf, rfl⟩
    apply settles_declaration (h f hf)

end Names

theorem settles_unlines {ls : List Text} (h : ∀ l ∈ ls, brackets.settles [] l = true)
    : brackets.settles [] (Text.unlines ls) = true := by
  unfold Text.unlines
  rw [List.flatMap_def]
  apply Brackets.settles_flatten
  intro l hl
  rcases List.mem_map.1 hl with ⟨l', hl', rfl⟩
  apply Brackets.settles_append_settles
  . apply h l' hl'
  . decide

end Solidity

end Scaffold
