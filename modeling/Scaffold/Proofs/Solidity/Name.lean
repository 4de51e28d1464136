import Mathlib.Data.List.Nodup
import Scaffold.Proofs.Solidity.Arbiter

/-!
This module contains the names that the lines of a source file bring into it, as they are read from
its text, and the condition under which no name is brought in twice. The check of a specification
does not cover all of this condition.
-/

namespace Scaffold

namespace Solidity

def importedNames (l : Text) : List Text :=
  if "import \x7b".toList.isPrefixOf l then
    (Text.splitWhen (· = ',') ((l.drop 8).takeWhile (· ≠ '\x7d'))).flatMap Text.words
  else []

structure Declaration where
  front : Text
  back : Text

def declarations : List Declaration :=
  [⟨"contract ", " "⟩, ⟨"  struct ", " \x7b"⟩, ⟨"  error ", "()"⟩]

def declaredName? (l : Text) (d : Declaration) : Option Text :=
  let behind := l.drop d.front.length
  if d.front.isPrefixOf l && d.back.isPrefixOf (behind.dropWhile continuesIdentifier) then
    some (behind.takeWhile continuesIdentifier)
  else none

def namesOfLine (l : Text) : List Text :=
  importedNames l ++ declarations.filterMap (declaredName? l)

def names (source : Text) : List Text :=
  source.lines.flatMap namesOfLine

theorem importedNames_line {i : Import} (h : ∀ n ∈ i.names, n.isIdentifier = true)
    : importedNames i.line = i.names := by
  have hplain : ∀ n ∈ i.names, IsPlain n := by
    intro n hn
    apply isPlain_of_isIdentifier (h n hn)
  have hprefix : "import \x7b".toList.isPrefixOf i.line = true := rfl
  have htake : (i.line.drop 8).takeWhile (· ≠ '\x7d') = Text.join ", " i.names := by
    have hdrop : i.line.drop 8 =
        Text.join ", " i.names ++ '\x7d' :: (" from \"".toList ++ (i.source ++ "\";".toList)) := by
      unfold Import.line
      repeat rw [String.toList_ofList]
      simp [List.append_assoc]
    rw [hdrop, List.takeWhile_append_of_pos, List.takeWhile_cons_of_neg (by decide)]
    . rw [List.append_nil]
    . intro c hc
      rw [decide_eq_true_eq]
      intro heq
      subst heq
      exact (IsPlain.join_comma hplain).not_mem_of_isBracket (by decide) hc
  unfold importedNames
  rw [if_pos hprefix, htake]
  cases hnames : i.names with
  | nil => rfl
  | cons n ns =>
    rw [hnames] at h
    have hcomma : ∀ m ∈ n :: ns, ',' ∉ m := by
      intro m hm
      apply Text.not_mem_of_isIdentifier (h m hm) (by decide)
    have hword : ∀ m ∈ n :: ns, Text.words m = [m] := by
      intro m hm
      apply Text.words_eq_singleton (Text.isWord_of_isIdentifier (h m hm))
    have hwords : ∀ ms : List Text, (∀ m ∈ ms, Text.words m = [m]) →
        (ms.map (' ' :: ·)).flatMap Text.words = ms := by
      intro ms hms
      induction ms with
      | nil => rfl
      | cons m ms ih =>
        rw [List.map_cons, List.flatMap_cons, Text.words_cons_space (by decide)]
        rw [hms m List.mem_cons_self, ih fun m' hm' => hms m' (List.mem_cons_of_mem _ hm')]
        rfl
    rw [FieldList.splitWhen_comma_join hcomma]
    rw [List.flatMap_cons, hword n List.mem_cons_self]
    rw [hwords ns fun m hm => hword m (List.mem_cons_of_mem _ hm)]
    rfl

theorem declaredName?_append (d : Declaration) {n : Text} (t : Text) (hn : n.isIdentifier = true)
    (hback : ∃ c s, d.back = c :: s ∧ continuesIdentifier c = false)
    : declaredName? (d.front ++ (n ++ (d.back ++ t))) d = some n := by
  rcases hback with ⟨c, s, hback, hc⟩
  have hall := Text.continuesIdentifier_of_mem hn
  have hprefix : d.front.isPrefixOf (d.front ++ (n ++ (d.back ++ t))) = true := by
    rw [List.isPrefixOf_iff_prefix]
    apply List.prefix_append
  have hbehind : (n ++ (d.back ++ t)).dropWhile continuesIdentifier = d.back ++ t := by
    rw [List.dropWhile_append_of_pos hall, hback, List.cons_append]
    rw [List.dropWhile_cons_of_neg (by simp [hc])]
  have hname : (n ++ (d.back ++ t)).takeWhile continuesIdentifier = n := by
    rw [List.takeWhile_append_of_pos hall, hback, List.cons_append]
    rw [List.takeWhile_cons_of_neg (by simp [hc]), List.append_nil]
  have hclosed : d.back.isPrefixOf (d.back ++ t) = true := by
    rw [List.isPrefixOf_iff_prefix]
    apply List.prefix_append
  unfold declaredName?
  dsimp only
  rw [List.drop_left, hbehind, hname, hprefix, hclosed]
  rfl

theorem namesOfLine_line {i : Import} (h : ∀ n ∈ i.names, n.isIdentifier = true)
    : namesOfLine i.line = i.names := by
  have hdeclared : declarations.filterMap (declaredName? i.line) = [] := rfl
  unfold namesOfLine
  rw [importedNames_line h, hdeclared, List.append_nil]

theorem namesOfLine_heading {name : Text} (bases : List Text) (h : name.isIdentifier = true)
    : namesOfLine (SourceFile.heading name bases) = [name] := by
  rcases SourceFile.exists_heading_eq name bases with ⟨t, ht⟩
  have hname : declaredName? ("contract ".toList ++ (name ++ ' ' :: t)) ⟨"contract ", " "⟩ =
      some name :=
    declaredName?_append _ t h ⟨' ', [], rfl, by decide⟩
  unfold namesOfLine declarations
  rw [ht, List.filterMap_cons_some hname]
  rfl

theorem namesOfLine_struct {name : Text} (h : name.isIdentifier = true)
    : namesOfLine ("  struct ".toList ++ name ++ " \x7b".toList) = [name] := by
  have hname := declaredName?_append ⟨"  struct ", " \x7b"⟩ [] h ⟨' ', ['\x7b'], rfl, by decide⟩
  rw [List.append_nil] at hname
  rw [List.append_assoc]
  unfold namesOfLine declarations
  rw [List.filterMap_cons_none (by rfl), List.filterMap_cons_some hname]
  rfl

theorem namesOfLine_indent_four (l : Text) : namesOfLine (indent 4 l) = [] := by
  unfold indent
  split
  . rfl
  . rfl

theorem namesOfLine_fieldLine (f : Field) : namesOfLine (fieldLine f) = [] := by
  unfold fieldLine
  rw [String.toList_ofList]
  rfl

theorem flatMap_namesOfLine_method {heading : List Text} (body : List Text)
    (h : ∀ l ∈ heading, namesOfLine (indent 2 l) = [])
    : (method heading body).flatMap namesOfLine = [] := by
  rw [List.flatMap_eq_nil_iff]
  intro l hl
  unfold method at hl
  simp only [List.mem_append, List.mem_map, List.mem_singleton] at hl
  rcases hl with (⟨l', hl', rfl⟩ | ⟨l', -, rfl⟩) | rfl
  . exact h l' hl'
  . apply namesOfLine_indent_four
  . rfl

theorem flatMap_namesOfLine_structLines {name : Text} (fs : FieldList)
    (h : name.isIdentifier = true)
    : (structLines name fs).flatMap namesOfLine = [name] := by
  have hfields : (fs.map fieldLine).flatMap namesOfLine = [] := by
    rw [List.flatMap_eq_nil_iff]
    intro l hl
    rcases List.mem_map.1 hl with ⟨f, -, rfl⟩
    apply namesOfLine_fieldLine
  unfold structLines
  rw [List.flatMap_append, List.flatMap_append, hfields]
  rw [List.flatMap_singleton, namesOfLine_struct h]
  rfl

theorem flatMap_names_resolve (wanted : List Symbol)
    : (Import.resolve wanted).flatMap Import.names =
        (Import.symbols.filter (· ∈ wanted)).map Symbol.name := by
  unfold Import.resolve Import.symbols
  induction Import.table with
  | nil => rfl
  | cons g gs ih =>
    have hgroup : (Import.Group.import? wanted g).toList.flatMap Import.names =
        (g.symbols.filter (· ∈ wanted)).map Symbol.name := by
      unfold Import.Group.import?
      split
      . next h =>
        rw [h]
        rfl
      . next h =>
        simp
    rw [List.flatMap_cons, List.filter_append, List.map_append, ← ih, ← hgroup]
    cases hg : Import.Group.import? wanted g with
    | none => simp [hg]
    | some i => simp [hg]

namespace SourceFile

theorem flatMap_namesOfLine_preamble {imports : List Import}
    (h : ∀ i ∈ imports, ∀ n ∈ i.names, n.isIdentifier = true)
    : (preamble imports).flatMap namesOfLine = imports.flatMap Import.names := by
  have hopening : [license, pragma, []].flatMap namesOfLine = [] := rfl
  have hlines : (imports.map Import.line).flatMap namesOfLine = imports.flatMap Import.names := by
    rw [List.flatMap_map]
    apply List.flatMap_congr
    intro i hi
    apply namesOfLine_line (h i hi)
  unfold preamble importLines
  rw [List.flatMap_append, hopening, List.nil_append]
  split
  . next hnil =>
    rw [List.isEmpty_iff] at hnil
    subst hnil
    rfl
  . rw [List.flatMap_append, hlines]
    exact List.append_nil _

theorem flatMap_namesOfLine_spaced (blocks : List (List Text))
    : (Text.spaced blocks).flatMap namesOfLine = blocks.flatMap (·.flatMap namesOfLine) := by
  cases blocks with
  | nil => rfl
  | cons b bs =>
    rw [Text.spaced_cons, List.flatMap_append, List.flatMap_assoc, List.flatMap_cons]
    rfl

theorem IsComposedOf.names_text {f : SourceFile} {blocks : List (List Text)}
    (h : f.IsComposedOf blocks)
    (himports : ∀ i ∈ f.imports, ∀ n ∈ i.names, n.isIdentifier = true)
    (hname : f.name.isIdentifier = true)
    : names f.text =
        f.imports.flatMap Import.names ++ f.name :: blocks.flatMap (·.flatMap namesOfLine) := by
  unfold names
  rw [h.lines_text]
  unfold linesWith
  simp only [List.flatMap_append, List.flatMap_singleton]
  rw [flatMap_namesOfLine_preamble himports, flatMap_namesOfLine_spaced]
  rw [namesOfLine_heading f.bases hname]
  have hclosing : namesOfLine ['\x7d'] = [] := rfl
  have hlast : namesOfLine [] = [] := rfl
  rw [hclosing, hlast]
  simp

end SourceFile

theorem isIdentifier_symbol (s : Symbol) : s.name.isIdentifier = true := by
  cases s
  all_goals
    unfold Symbol.name
    rw [String.toList_ofList]
    decide

theorem isIdentifier_of_mem_names_resolve {wanted : List Symbol} {i : Import}
    (hi : i ∈ Import.resolve wanted)
    : ∀ n ∈ i.names, n.isIdentifier = true := by
  intro n hn
  have hmem : n ∈ (Import.resolve wanted).flatMap Import.names := by
    rw [List.mem_flatMap]
    exact ⟨i, hi, hn⟩
  rw [flatMap_names_resolve] at hmem
  rcases List.mem_map.1 hmem with ⟨s, -, rfl⟩
  apply isIdentifier_symbol

theorem isIdentifier_dataStruct : dataStruct.isIdentifier = true := by
  unfold dataStruct
  rw [String.toList_ofList]
  decide

theorem isIdentifier_demandStruct : demandStruct.isIdentifier = true := by
  unfold demandStruct
  rw [String.toList_ofList]
  decide

theorem namesOfLine_checkHeading : ∀ l ∈ checkHeading, namesOfLine (indent 2 l) = [] := by
  unfold checkHeading
  repeat rw [String.toList_ofList]
  decide

end Solidity

namespace Obligation

open Solidity

def declaredNames (o : Obligation) : List Text :=
  "ObligationData" :: if o.hasVerification then ["DemandData"] else []

theorem flatMap_namesOfLine_blocks (o : Obligation)
    : o.blocks.flatMap (·.flatMap namesOfLine) = o.declaredNames := by
  have hconstructor : o.constructorLines.flatMap namesOfLine = [] := rfl
  have hmake : o.makeLines.flatMap namesOfLine = [] := by
    unfold makeLines
    apply flatMap_namesOfLine_method
    repeat rw [String.toList_ofList]
    decide
  have hcheck : checkLines.flatMap namesOfLine = [] :=
    flatMap_namesOfLine_method _ namesOfLine_checkHeading
  have hfinalization : ((List.range o.terms).map finalizationLines).flatMap
      (·.flatMap namesOfLine) = [] := by
    rw [List.flatMap_eq_nil_iff]
    intro b hb
    rcases List.mem_map.1 hb with ⟨index, -, rfl⟩
    apply flatMap_namesOfLine_method
    intro l hl
    rw [List.mem_singleton] at hl
    subst hl
    rfl
  have husing : usingLines.flatMap namesOfLine = [] := rfl
  unfold blocks declaredNames verificationBlocks
  simp only [List.flatMap_append, List.flatMap_cons, List.flatMap_nil]
  rw [hfinalization, hconstructor, hmake]
  rw [flatMap_namesOfLine_structLines _ isIdentifier_dataStruct]
  cases o.hasVerification with
  | false => rfl
  | true =>
    simp only [if_true, List.flatMap_cons, List.flatMap_nil]
    rw [flatMap_namesOfLine_structLines _ isIdentifier_demandStruct, husing, hcheck]
    rfl

end Obligation

namespace Arbiter

open Solidity

def declaredNames : List Text :=
  ["DemandData", "IncompatibleObligation"]

/--
The reference to the base obligation is no declaration, even if the base obligation is called like a
keyword.
-/
theorem declaredName?_reference {base : Text} (h : base.isIdentifier = true) {d : Declaration}
    {w : Text} (hw : ' ' ∉ w) (hfront : d.front = "  ".toList ++ (w ++ " ".toList))
    (hback : d.back.isPrefixOf " immutable baseObligation;".toList = false)
    : declaredName? ("  ".toList ++ base ++ " public immutable baseObligation;".toList) d =
        none := by
  unfold declaredName?
  dsimp only
  split
  . next hdeclares =>
    rw [Bool.and_eq_true, List.isPrefixOf_iff_prefix] at hdeclares
    rcases hdeclares with ⟨⟨t, ht⟩, hclosed⟩
    rw [← ht, List.drop_left] at hclosed
    rw [hfront, List.append_assoc, List.append_assoc, List.append_assoc] at ht
    have hspace := Text.not_mem_of_isIdentifier h (c := ' ') (by decide)
    rcases eq_of_append_cons_eq hspace hw (List.append_cancel_left ht) with ⟨-, -, rfl⟩
    have hbehind : "public immutable baseObligation;".toList.dropWhile continuesIdentifier =
        " immutable baseObligation;".toList := by
      repeat rw [String.toList_ofList]
      decide
    change d.back.isPrefixOf
      ("public immutable baseObligation;".toList.dropWhile continuesIdentifier) = true at hclosed
    rw [hbehind, hback] at hclosed
    cases hclosed
  . rfl

theorem isIdentifier_of_mem_names_imports {a : Arbiter} (h : a.IsValid) {i : Import}
    (hi : i ∈ a.imports)
    : ∀ n ∈ i.names, n.isIdentifier = true := by
  unfold imports at hi
  rw [List.mem_append, List.mem_map] at hi
  rcases hi with hi | ⟨base, hbase, rfl⟩
  . apply isIdentifier_of_mem_names_resolve hi
  . intro n hn
    cases hn with
    | head => exact isIdentifier_of_isBaseName (h.base _ (Option.mem_toList.1 hbase))
    | tail _ hn => cases hn

theorem flatMap_namesOfLine_blocks {a : Arbiter} (h : a.IsValid)
    : a.blocks.flatMap (·.flatMap namesOfLine) = declaredNames := by
  have husing : usingLines.flatMap namesOfLine = [] := rfl
  have herror : errorLines.flatMap namesOfLine = ["IncompatibleObligation".toList] := by
    unfold errorLines mismatchError
    repeat rw [String.toList_ofList]
    rfl
  have hconstructor : (constructorBlocks a.base).flatMap (·.flatMap namesOfLine) = [] := by
    cases hbase : a.base with
    | none => rfl
    | some base =>
      have hidentifier := isIdentifier_of_isBaseName (h.base base hbase)
      have hstruct := declaredName?_reference hidentifier (d := ⟨"  struct ", " \x7b"⟩)
        (w := "struct") (by decide) rfl rfl
      have herror := declaredName?_reference hidentifier (d := ⟨"  error ", "()"⟩)
        (w := "error") (by decide) rfl rfl
      have hreference : namesOfLine
          ("  ".toList ++ base ++ " public immutable baseObligation;".toList) = [] := by
        unfold namesOfLine declarations
        rw [List.filterMap_cons_none (by rfl), List.filterMap_cons_none hstruct]
        rw [List.filterMap_cons_none herror]
        rfl
      unfold constructorBlocks
      rw [List.flatMap_cons, List.flatMap_singleton, hreference]
      rfl
  have hcheck : (checkLines a.base.isSome).flatMap namesOfLine = [] :=
    flatMap_namesOfLine_method _ namesOfLine_checkHeading
  unfold blocks declaredNames
  simp only [List.flatMap_append, List.flatMap_cons, List.flatMap_nil]
  rw [hconstructor, husing, herror, hcheck]
  rw [flatMap_namesOfLine_structLines _ isIdentifier_demandStruct]
  rfl

end Arbiter

namespace Spec

open Solidity

def symbols : Spec → List Symbol
  | obligation o => o.symbols
  | arbiter _ => [.attestation, .arbiter, .arbiterUtils]

def frameworkNames (s : Spec) : List Text :=
  (Import.symbols.filter (· ∈ s.symbols)).map Symbol.name

def base : Spec → Option Text
  | obligation _ => none
  | arbiter a => a.base

def declaredNames : Spec → List Text
  | obligation o => o.declaredNames
  | arbiter _ => Arbiter.declaredNames

theorem names_source {s : Spec} (h : s.validate = .ok ())
    : names s.source = s.frameworkNames ++ s.base.toList ++ s.name :: s.declaredNames := by
  cases s with
  | obligation o =>
    have hvalid := Obligation.validate_eq_ok_iff.1 h
    have himports : ∀ i ∈ Import.resolve o.symbols, ∀ n ∈ i.names, n.isIdentifier = true := by
      intro i hi
      apply isIdentifier_of_mem_names_resolve hi
    have hnames := (Obligation.isComposedOf_sourceFile hvalid).names_text himports hvalid.name
    change names o.source = _ at hnames
    change names o.source = _
    rw [hnames, Obligation.flatMap_namesOfLine_blocks]
    change (Import.resolve o.symbols).flatMap Import.names ++ _ = _ ++ [] ++ _
    rw [flatMap_names_resolve, List.append_nil]
    rfl
  | arbiter a =>
    have hvalid := Arbiter.validate_eq_ok_iff.1 h
    have himports : ∀ i ∈ a.imports, ∀ n ∈ i.names, n.isIdentifier = true := by
      intro i hi
      apply Arbiter.isIdentifier_of_mem_names_imports hvalid hi
    have hnames := (Arbiter.isComposedOf_sourceFile hvalid).names_text himports hvalid.name
    have hsibling : (a.base.toList.map Import.sibling).flatMap Import.names = a.base.toList := by
      cases a.base with
      | none => rfl
      | some base => rfl
    change names a.source = _ at hnames
    change names a.source = _
    rw [hnames, Arbiter.flatMap_namesOfLine_blocks hvalid]
    change a.imports.flatMap Import.names ++ _ = _
    unfold Arbiter.imports
    rw [List.flatMap_append, flatMap_names_resolve, hsibling]
    rfl

theorem name_symbol_injective {s t : Symbol} (h : s.name = t.name) : s = t := by
  cases s
  all_goals
    cases t
    all_goals first | rfl | exact absurd h (by decide)

theorem nodup_frameworkNames (s : Spec) : s.frameworkNames.Nodup := by
  have hsymbols : Import.symbols.Nodup := by decide
  apply List.Nodup.map_on
  . intro x _ y _ h
    exact name_symbol_injective h
  . apply hsymbols.filter

theorem declaredNames_sublist (s : Spec)
    : s.declaredNames.Sublist ["ObligationData", "DemandData", "IncompatibleObligation"] := by
  cases s with
  | obligation o =>
    change ("ObligationData".toList :: if o.hasVerification then ["DemandData"] else []).Sublist _
    cases o.hasVerification
    . decide
    . decide
  | arbiter a => apply List.sublist_cons_self

theorem nodup_declaredNames (s : Spec) : s.declaredNames.Nodup := by
  apply List.Nodup.sublist s.declaredNames_sublist
  decide

theorem not_mem_declaredNames_of_mem_frameworkNames {s : Spec} {n : Text}
    (h : n ∈ s.frameworkNames)
    : n ∉ s.declaredNames := by
  have hsymbol : ∀ t : Symbol,
      t.name ∉ ["ObligationData".toList, "DemandData", "IncompatibleObligation"] := by
    intro t
    cases t
    all_goals decide
  rcases List.mem_map.1 h with ⟨t, -, rfl⟩
  intro hmem
  apply hsymbol t (s.declaredNames_sublist.subset hmem)

theorem isBaseName_of_validate {s : Spec} (h : s.validate = .ok ())
    : ∀ base ∈ s.base, isBaseName s.name base = true := by
  cases s with
  | obligation o => simp [base]
  | arbiter a => exact (Arbiter.validate_eq_ok_iff.1 h).base

theorem not_mem_frameworkNames_of_isBaseName {s : Spec} {own n : Text}
    (h : isBaseName own n = true)
    : n ∉ s.frameworkNames := by
  unfold isBaseName at h
  simp only [Bool.and_eq_true, Bool.not_eq_true'] at h
  intro hmem
  rcases List.mem_map.1 hmem with ⟨t, ht, rfl⟩
  have htable : Import.isTableName t.name = true := by
    unfold Import.isTableName
    rw [List.any_eq_true]
    exact ⟨t, (List.mem_filter.1 ht).1, by simp⟩
  rw [htable] at h
  cases h.2

theorem nodup_importedNames {s : Spec} (h : s.validate = .ok ())
    : (s.frameworkNames ++ s.base.toList).Nodup := by
  rw [List.nodup_append]
  refine ⟨s.nodup_frameworkNames, ?_, ?_⟩
  . cases s.base <;> simp
  . intro n hn m hm heq
    subst heq
    have hvalid := isBaseName_of_validate h n (Option.mem_toList.1 hm)
    exact not_mem_frameworkNames_of_isBaseName hvalid hn

/--
In the source of a valid specification, no name is brought in twice exactly if the contract is not
called like something that it imports from the framework or declares, and the base obligation is not
called like something that the contract declares. Nothing else can clash.
-/
theorem nodup_names_source_iff (s : Spec) (h : s.validate = .ok ())
    : (names s.source).Nodup ↔
        s.name ∉ s.frameworkNames ++ s.declaredNames ∧ ∀ n ∈ s.base, n ∉ s.declaredNames := by
  rw [names_source h]
  rw [List.nodup_append, List.nodup_cons, List.mem_append, not_or]
  constructor
  . intro hnodup
    rcases hnodup with ⟨-, ⟨hdeclared, -⟩, hapart⟩
    refine ⟨⟨?_, hdeclared⟩, ?_⟩
    . intro hmem
      apply hapart s.name (List.mem_append_left _ hmem) s.name List.mem_cons_self rfl
    . intro n hn hmem
      apply hapart n (List.mem_append_right _ (Option.mem_toList.2 hn)) n
        (List.mem_cons_of_mem _ hmem) rfl
  . intro hapart
    rcases hapart with ⟨⟨hframework, hdeclared⟩, hbase⟩
    refine ⟨nodup_importedNames h, ⟨hdeclared, s.nodup_declaredNames⟩, ?_⟩
    intro n hn m hm heq
    subst heq
    rw [List.mem_append, Option.mem_toList] at hn
    rw [List.mem_cons] at hm
    rcases hn with hn | hn
    . rcases hm with rfl | hm
      . exact hframework hn
      . exact not_mem_declaredNames_of_mem_frameworkNames hn hm
    . rcases hm with rfl | hm
      . have hvalid := isBaseName_of_validate h _ hn
        simp [isBaseName] at hvalid
      . exact hbase n hn hm

theorem nodup_names_source_payment
    : (Spec.arbiter ⟨"PaymentArbiter", some "Payment", [⟨"address", "token"⟩]⟩).validate = .ok () ∧
      (names (Spec.arbiter
        ⟨"PaymentArbiter", some "Payment", [⟨"address", "token"⟩]⟩).source).Nodup := by
  have hvalid : (Spec.arbiter
      ⟨"PaymentArbiter", some "Payment", [⟨"address", "token"⟩]⟩).validate = .ok () := by
    decide
  refine ⟨hvalid, ?_⟩
  rw [nodup_names_source_iff _ hvalid]
  decide

/--
A base obligation may be called like the struct that a demand is made of, and a contract like one
that it imports.
-/
theorem not_nodup_names_source_demand
    : ((Spec.arbiter
          ⟨"PaymentArbiter", some "DemandData", [⟨"address", "token"⟩]⟩).validate = .ok () ∧
        ¬ (names (Spec.arbiter
          ⟨"PaymentArbiter", some "DemandData", [⟨"address", "token"⟩]⟩).source).Nodup) ∧
      (Spec.arbiter ⟨"IArbiter", none, [⟨"address", "token"⟩]⟩).validate = .ok () ∧
        ¬ (names (Spec.arbiter ⟨"IArbiter", none, [⟨"address", "token"⟩]⟩).source).Nodup := by
  have hbase : (Spec.arbiter
      ⟨"PaymentArbiter", some "DemandData", [⟨"address", "token"⟩]⟩).validate = .ok () := by
    decide
  have hname : (Spec.arbiter ⟨"IArbiter", none, [⟨"address", "token"⟩]⟩).validate = .ok () := by
    decide
  refine ⟨⟨hbase, ?_⟩, hname, ?_⟩
  . rw [names_source hbase]
    decide
  . rw [names_source hname]
    decide

end Spec

end Scaffold
