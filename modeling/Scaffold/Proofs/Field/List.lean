import Mathlib.Data.List.Forall2
import Scaffold.Field.List
import Scaffold.Proofs.Except
import Scaffold.Proofs.Field.Basic
import Scaffold.Proofs.Field.Brackets

/-!
This module contains the theory of written field lists. Whether an entry is a field depends on its
words alone, so a field that was read from an entry is read again from its declaration, and a list
that was read from some text is read again from its signature.
-/

namespace Scaffold

namespace Field

theorem isBalanced_flatten_words (s : Text)
    : Text.isBalanced s.words.flatten = s.isBalanced := by
  unfold Text.isBalanced
  rw [← Brackets.settles_filter_isBracket]
  rw [← Brackets.settles_filter_isBracket [] s]
  rw [Text.flatten_words]
  rw [List.filter_filter]
  congr 1
  apply List.filter_congr
  intro c _
  -- A bracket is no space, so it is kept in the words.
  cases hc : Brackets.isBracket .ofTypes c with
  | false => rfl
  | true =>
    have : c = '(' ∨ c = '[' ∨ c = ')' ∨ c = ']' := by
      simp [Brackets.isBracket, Brackets.closer?, Brackets.isCloser, Brackets.ofTypes,
        List.lookup_cons, List.lookup_nil] at hc
      grind
    rcases this with rfl | rfl | rfl | rfl <;> decide

theorem ofEntry_eq_ok_iff {e : Text} {f : Field}
    : ofEntry e = .ok f ↔
        ∃ ts, e.words = ts ++ [f.name] ∧ ts ≠ [] ∧ Text.isBalanced e.words.flatten = true ∧
          f.typeName = Text.join [' '] ts ∧ f.typeName.isTypeName = true ∧
          f.name.isIdentifier = true := by
  rw [isBalanced_flatten_words]
  unfold ofEntry
  split
  . next hrev =>
    simp only [List.reverse_eq_nil_iff] at hrev
    simp [hrev]
  . next name before hrev =>
    have hwords : e.words = before.reverse ++ [name] := by
      rw [← List.reverse_reverse e.words]
      rw [hrev]
      apply List.reverse_cons
    rcases f with ⟨typeName, fname⟩
    constructor
    . intro h
      simp only at h
      split at h
      . simp at h
      . split at h
        . simp at h
        . split at h
          . simp at h
          . split at h
            . simp at h
            . simp only [Except.ok.injEq, Field.mk.injEq] at h
              rcases h with ⟨rfl, rfl⟩
              refine ⟨before.reverse, hwords, ?_⟩
              simp_all
    . intro h'
      rcases h' with ⟨ts, hts, hne, hbal, htype, hok, hname⟩
      rw [hwords] at hts
      rcases List.append_inj' hts rfl with ⟨rfl, hlast⟩
      have heq : name = fname := by simpa using hlast
      subst heq
      simp_all

theorem ofEntry_congr {e e' : Text} (h : e.words = e'.words) (f : Field)
    : ofEntry e = .ok f ↔ ofEntry e' = .ok f := by
  rw [ofEntry_eq_ok_iff, ofEntry_eq_ok_iff]
  rw [h]

theorem words_declaration_of_ofEntry {e : Text} {f : Field} (h : ofEntry e = .ok f)
    : f.declaration.words = e.words := by
  rcases ofEntry_eq_ok_iff.1 h with ⟨ts, hts, -, -, htype, -, hname⟩
  have hwords : ∀ w ∈ ts, Text.IsWord w := by
    intro w hw
    apply Text.isWord_of_mem_words (s := e)
    rw [hts]
    simp [hw]
  unfold declaration
  rw [Text.words_append_space (by decide)]
  rw [htype]
  rw [Text.words_join hwords]
  rw [Text.words_eq_singleton (Text.isWord_of_isIdentifier hname)]
  rw [hts]

theorem ofEntry_declaration_of_ofEntry {e : Text} {f : Field} (h : ofEntry e = .ok f)
    : ofEntry f.declaration = .ok f := by
  rw [ofEntry_congr (words_declaration_of_ofEntry h)]
  exact h

theorem check_eq_ok_iff {f : Field} : f.check = .ok () ↔ ofEntry f.declaration = .ok f := by
  unfold check
  constructor
  . intro h
    split at h
    . simp at h
    . rcases Except.bind_eq_ok_iff.1 h with ⟨g, hg, hgf⟩
      split at hgf
      . next heq => rw [hg, heq]
      . simp at hgf
  . intro h
    rcases ofEntry_eq_ok_iff.1 h with ⟨ts, -, -, -, -, -, hname⟩
    rw [h, hname]
    simp

theorem isIdentifier_of_check {f : Field} (h : f.check = .ok ()) : f.name.isIdentifier = true := by
  rcases ofEntry_eq_ok_iff.1 (check_eq_ok_iff.1 h) with ⟨ts, -, -, -, -, -, hname⟩
  exact hname

theorem isTypeName_of_check {f : Field} (h : f.check = .ok ())
    : f.typeName.isTypeName = true := by
  rcases ofEntry_eq_ok_iff.1 (check_eq_ok_iff.1 h) with ⟨ts, -, -, -, -, htype, -⟩
  exact htype

theorem isBalanced_of_check {f : Field} (h : f.check = .ok ())
    : f.declaration.isBalanced = true := by
  rcases ofEntry_eq_ok_iff.1 (check_eq_ok_iff.1 h) with ⟨ts, -, -, hbal, -, -, -⟩
  rw [isBalanced_flatten_words] at hbal
  exact hbal

theorem continuesType_of_mem_declaration {f : Field} (h : f.check = .ok ())
    : ∀ c ∈ f.declaration, continuesType c = true := by
  intro c hc
  simp only [declaration, List.mem_append, List.mem_cons] at hc
  rcases hc with hc | rfl | hc
  . apply Text.continuesType_of_mem (isTypeName_of_check h) c hc
  . decide
  . apply continuesType_of_continuesIdentifier
    apply Text.continuesIdentifier_of_mem (isIdentifier_of_check h) c hc

end Field

namespace FieldList

open Scaffold.Field

theorem ofEntries_eq_ok_iff {index : Nat} {es : List Text} {fs : FieldList}
    : ofEntries index es = .ok fs ↔ List.Forall₂ (fun e f => ofEntry e = .ok f) es fs := by
  induction es generalizing index fs with
  | nil =>
    rw [ofEntries, List.forall₂_nil_left_iff]
    simp [eq_comm]
  | cons e es ih =>
    rw [ofEntries]
    cases he : ofEntry e with
    | error cause => simp [he, List.forall₂_cons_left_iff]
    | ok f =>
      dsimp only
      rw [Except.map_eq_ok_iff]
      rw [List.forall₂_cons_left_iff]
      simp only [he, ih, Except.ok.injEq]
      grind

/--
A blank text is no special case: its only piece is no field.
-/
theorem parse_eq_ok_iff {raw : Text} {fs : FieldList}
    : parse raw = .ok fs ↔
        List.Forall₂ (fun e f => ofEntry e = .ok f) (raw.splitWhen (· = ',')) fs := by
  unfold parse
  split
  . next hblank =>
    have hcomma : ∀ c ∈ raw, decide (c = ',') = false := by
      intro c hc
      rw [Text.isBlank, List.all_eq_true] at hblank
      rw [decide_eq_false_iff_not]
      intro heq
      subst heq
      exact absurd (hblank ',' hc) (by decide)
    have hentry : ofEntry raw = .error .blank := by
      unfold ofEntry
      rw [Text.words_eq_nil_iff.2 hblank]
      rfl
    rw [Text.splitWhen_eq_singleton hcomma]
    simp [hentry, List.forall₂_cons_left_iff]
  . exact ofEntries_eq_ok_iff

theorem check_eq_ok_iff {index : Nat} {fs : FieldList}
    : check index fs = .ok () ↔ ∀ f ∈ fs, f.check = .ok () := by
  induction fs generalizing index with
  | nil => simp [check]
  | cons f fs ih =>
    rw [check]
    cases hf : f.check with
    | error cause => simp [hf]
    | ok u => simp [hf, ih]

theorem splitWhen_comma_join {d : Text} {ds : List Text} (h : ∀ e ∈ d :: ds, ',' ∉ e)
    : Text.splitWhen (· = ',') (Text.join ", " (d :: ds)) = d :: ds.map (' ' :: ·) := by
  have hsingle : ∀ e ∈ d :: ds, Text.splitWhen (· = ',') e = [e] := by
    intro e he
    apply Text.splitWhen_eq_singleton
    intro c hc
    rw [decide_eq_false_iff_not]
    intro heq
    subst heq
    apply h e he hc
  induction ds generalizing d with
  | nil =>
    rw [Text.join_singleton]
    apply hsingle d (by simp)
  | cons e es ih =>
    rw [Text.join_cons_cons]
    have hsep : (", " : Text) = [',', ' '] := rfl
    have htail := ih (fun u hu => h u (List.mem_cons_of_mem d hu))
      (fun u hu => hsingle u (List.mem_cons_of_mem d hu))
    rw [hsep] at htail ⊢
    rw [List.cons_append]
    rw [Text.splitWhen_append_cons (by decide)]
    rw [hsingle d (by simp)]
    rw [List.singleton_append, List.singleton_append]
    rw [Text.splitWhen]
    rw [htail]
    rfl

structure IsValid (fs : FieldList) : Prop where
  ne_nil : fs ≠ []
  check : ∀ f ∈ fs, f.check = .ok ()

theorem parse_signature {fs : FieldList} (hfs : fs.IsValid) : parse (signature fs) = .ok fs := by
  rcases hfs with ⟨hne, h⟩
  have hdecl : ∀ f ∈ fs, ofEntry f.declaration = .ok f := by
    intro f hf
    apply Field.check_eq_ok_iff.1 (h f hf)
  have hspace : ∀ f ∈ fs, ofEntry (' ' :: f.declaration) = .ok f := by
    intro f hf
    rw [ofEntry_congr (Text.words_cons_space (by decide) f.declaration)]
    apply hdecl f hf
  rw [parse_eq_ok_iff]
  unfold signature
  cases fs with
  | nil => exact absurd rfl hne
  | cons f fs =>
    rw [List.map_cons]
    rw [splitWhen_comma_join]
    . rw [List.forall₂_cons]
      constructor
      . apply hdecl f (by simp)
      . rw [List.map_map, List.forall₂_map_left_iff, List.forall₂_same]
        intro g hg
        apply hspace g (by simp [hg])
    . rw [← List.map_cons (l := fs)]
      intro e he hcomma
      rcases List.mem_map.1 he with ⟨g, hg, rfl⟩
      have := continuesType_of_mem_declaration (h g hg) ',' hcomma
      exact absurd this (by decide)

theorem isValid_of_parse {raw : Text} {fs : FieldList} (h : parse raw = .ok fs)
    : fs.IsValid := by
  rw [parse_eq_ok_iff] at h
  constructor
  . intro heq
    subst heq
    rw [List.forall₂_nil_right_iff] at h
    apply Text.splitWhen_ne_nil _ raw h
  . generalize raw.splitWhen (· = ',') = es at h
    induction h with
    | nil => simp
    | @cons e f es fs he _ ih =>
      intro g hg
      rcases List.mem_cons.1 hg with rfl | hg
      . rw [Field.check_eq_ok_iff]
        apply ofEntry_declaration_of_ofEntry he
      . apply ih g hg

theorem trim_signature {fs : FieldList} (hfs : fs.IsValid) : fs.signature.trim = fs.signature := by
  rcases hfs with ⟨hne, h⟩
  apply Text.trim_eq_self
  . rcases List.exists_cons_of_ne_nil hne with ⟨f, gs, rfl⟩
    rcases Text.exists_join_cons_eq_append ", " f.declaration (gs.map declaration) with ⟨u, hu⟩
    have htype := isTypeName_of_check (h f (by simp))
    intro c hc
    apply Text.isSpace_of_mem_head?_isTypeName htype
    unfold signature at hc
    rw [List.map_cons, hu] at hc
    cases ht : f.typeName with
    | nil => simp [ht, Text.isTypeName] at htype
    | cons d s => simpa [declaration, ht] using hc
  . rcases List.eq_nil_or_concat fs |>.resolve_left hne with ⟨gs, f, rfl⟩
    rcases Text.exists_join_concat_eq_append ", " f.declaration (gs.map declaration) with ⟨u, hu⟩
    rcases Text.isWord_of_isIdentifier (isIdentifier_of_check (h f (by simp))) with ⟨hname, hspace⟩
    intro c hc
    apply hspace
    apply List.mem_of_mem_getLast?
    unfold signature at hc
    rw [List.concat_eq_append, List.map_append, List.map_singleton, hu] at hc
    unfold declaration at hc
    rw [List.getLast?_append, List.getLast?_append] at hc
    cases hn : f.name with
    | nil => exact absurd hn hname
    | cons d s => simpa [hn] using hc

theorem signature_injective {fs gs : FieldList} (hfs : ∀ f ∈ fs, f.check = .ok ())
    (hgs : ∀ g ∈ gs, g.check = .ok ()) (h : signature fs = signature gs)
    : fs = gs := by
  have hnil : ∀ hs : FieldList, parse (signature []) ≠ .ok hs := by
    intro hs
    simp [signature, parse, Text.isBlank]
  by_cases hf : fs = []
  . by_cases hg : gs = []
    . rw [hf, hg]
    . have := parse_signature ⟨hg, hgs⟩
      rw [← h, hf] at this
      exact absurd this (hnil gs)
  . have hparse := parse_signature ⟨hf, hfs⟩
    by_cases hg : gs = []
    . rw [h, hg] at hparse
      exact absurd hparse (hnil fs)
    . rw [h, parse_signature ⟨hg, hgs⟩] at hparse
      exact (Except.ok.inj hparse).symm

/--
A field list can be read from some text, or from its signature, exactly if it is not empty and the
field at every position passes the check there. So lists that pass it differ in their signatures.
-/
theorem check_iff_parse_iff_parse_signature (fs : FieldList)
    : ((fs ≠ [] ∧ ∀ i (hi : i < fs.length), check i [fs[i]] = .ok ()) ↔
        ∃ raw, parse raw = .ok fs) ∧
      ((∃ raw, parse raw = .ok fs) ↔ parse (signature fs) = .ok fs) ∧
      ∀ gs : FieldList, (∀ i (hi : i < fs.length), check i [fs[i]] = .ok ()) →
        (∀ i (hi : i < gs.length), check i [gs[i]] = .ok ()) → signature fs = signature gs →
        fs = gs := by
  have hcheck : ∀ hs : FieldList, (∀ i (hi : i < hs.length), check i [hs[i]] = .ok ()) ↔
      ∀ f ∈ hs, f.check = .ok () := by
    intro hs
    simp only [check_eq_ok_iff, List.mem_singleton, forall_eq]
    rw [List.forall_mem_iff_forall_getElem]
  rw [hcheck]
  refine ⟨⟨?_, ?_⟩, ⟨?_, ?_⟩, ?_⟩
  . intro h'
    rcases h' with ⟨hne, h⟩
    exact ⟨signature fs, parse_signature ⟨hne, h⟩⟩
  . intro h'
    rcases h' with ⟨raw, hraw⟩
    have hfs := isValid_of_parse hraw
    exact ⟨hfs.ne_nil, hfs.check⟩
  . intro h'
    rcases h' with ⟨raw, hraw⟩
    apply parse_signature (isValid_of_parse hraw)
  . intro h
    exact ⟨signature fs, h⟩
  . intro gs hfs hgs
    apply signature_injective hfs ((hcheck gs).1 hgs)

theorem parse_signature_recipient
    : (∀ i (hi : i < 2),
        check i [[⟨"address payable", "to"⟩, ⟨"bytes32[]", "hashes"⟩][i]] = .ok ()) ∧
      parse (signature [⟨"address payable", "to"⟩, ⟨"bytes32[]", "hashes"⟩]) =
        .ok [⟨"address payable", "to"⟩, ⟨"bytes32[]", "hashes"⟩] := by
  have hcheck : ∀ i (hi : i < 2),
      check i [[⟨"address payable", "to"⟩, ⟨"bytes32[]", "hashes"⟩][i]] = .ok () := by
    decide
  rcases check_iff_parse_iff_parse_signature
    [⟨"address payable", "to"⟩, ⟨"bytes32[]", "hashes"⟩] with ⟨hread, hsig, -⟩
  constructor
  . exact hcheck
  . apply hsig.1 (hread.1 ⟨by simp, hcheck⟩)

end FieldList

end Scaffold
