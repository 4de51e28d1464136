import Scaffold.Proofs.Solidity.Name

/-!
This module contains the import lines of a source file, as they are read from its text. The lines
that bring in symbols of the framework hold every symbol that is wanted and no other, and no name
and no file comes twice, not even with the base obligation of an arbiter, which bypasses the table.
-/

namespace Scaffold

namespace Solidity

def opensImport (l : Text) : Bool :=
  "import ".toList.isPrefixOf l

def readImport (l : Text) : Import where
  names := importedNames l
  source := (Text.splitWhen (· = '"') l).getD 1 []

def importsOf (source : Text) : List Import :=
  (source.lines.filter opensImport).map readImport

namespace Import

variable {wanted wanted' : List Symbol} {i : Import}

theorem splitWhen_quote_line (h : i.IsPlain)
    : ∃ front, Text.splitWhen (· = '"') i.line = [front, i.source, [';']] := by
  have hquotable : ∀ {s : Text}, IsQuotable s → Text.splitWhen (· = '"') s = [s] := by
    intro s hs
    apply Text.splitWhen_eq_singleton
    intro c hc
    rw [decide_eq_false_iff_not]
    exact (hs c hc).2
  have hfront : IsQuotable
      ("import \x7b".toList ++ (Text.join ", " i.names ++ "\x7d from ".toList)) := by
    have hopen : IsQuotable "import \x7b".toList := by
      rw [String.toList_ofList]
      decide
    have hclose : IsQuotable "\x7d from ".toList := by
      rw [String.toList_ofList]
      decide
    intro c hc
    simp only [List.mem_append] at hc
    rcases hc with hc | hc | hc
    . exact hopen c hc
    . exact (Solidity.IsPlain.join_comma h.names).isQuotable c hc
    . exact hclose c hc
  have hline : i.line = ("import \x7b".toList ++ (Text.join ", " i.names ++ "\x7d from ".toList)) ++
      '"' :: (i.source ++ '"' :: [';']) := by
    unfold line
    repeat rw [String.toList_ofList]
    simp
  refine ⟨"import \x7b".toList ++ (Text.join ", " i.names ++ "\x7d from ".toList), ?_⟩
  rw [hline, Text.splitWhen_append_cons (by decide), Text.splitWhen_append_cons (by decide)]
  rw [hquotable hfront, hquotable h.source.isQuotable]
  rfl

theorem readImport_line (h : i.IsPlain) (hnames : ∀ n ∈ i.names, n.isIdentifier = true)
    : readImport i.line = i := by
  rcases splitWhen_quote_line h with ⟨front, hfront⟩
  unfold readImport
  rw [importedNames_line hnames, hfront]
  rfl

theorem opensImport_line (i : Import) : opensImport i.line = true := by
  unfold line opensImport
  repeat rw [String.toList_ofList]
  rfl

theorem Group.import?_eq_some_iff {g : Group}
    : g.import? wanted = some i ↔
        g.symbols.filter (· ∈ wanted) ≠ [] ∧
          i = ⟨(g.symbols.filter (· ∈ wanted)).map Symbol.name, g.source⟩ := by
  unfold import?
  split
  . next h => simp [h]
  . next h =>
    rw [Option.some.injEq]
    constructor
    . intro heq
      exact ⟨h, heq.symm⟩
    . intro h'
      exact h'.2.symm

theorem mem_resolve_iff
    : i ∈ resolve wanted ↔
        ∃ g ∈ table, g.symbols.filter (· ∈ wanted) ≠ [] ∧
          i = ⟨(g.symbols.filter (· ∈ wanted)).map Symbol.name, g.source⟩ := by
  unfold resolve
  simp only [List.mem_filterMap, Group.import?_eq_some_iff]

theorem resolve_congr (h : ∀ s, s ∈ wanted ↔ s ∈ wanted') : resolve wanted = resolve wanted' := by
  unfold resolve
  apply List.filterMap_congr
  intro g hg
  have hchosen : g.symbols.filter (· ∈ wanted) = g.symbols.filter (· ∈ wanted') := by
    apply List.filter_congr
    intro s hs
    rw [decide_eq_decide]
    exact h s
  unfold Group.import?
  rw [hchosen]

theorem sources_resolve_sublist (wanted : List Symbol)
    : ((resolve wanted).map Import.source).Sublist (table.map Group.source) := by
  unfold resolve
  induction table with
  | nil => exact .slnil
  | cons g gs ih =>
    cases hg : g.import? wanted with
    | none =>
      rw [List.filterMap_cons_none hg]
      exact ih.cons _
    | some i =>
      rcases Group.import?_eq_some_iff.1 hg with ⟨-, rfl⟩
      rw [List.filterMap_cons_some hg]
      exact ih.cons_cons _

theorem nodup_sources_resolve (wanted : List Symbol)
    : ((resolve wanted).map Import.source).Nodup := by
  have htable : (table.map Group.source).Nodup := by
    unfold table
    repeat rw [String.toList_ofList]
    decide
  exact htable.sublist (sources_resolve_sublist wanted)

theorem source_sibling_not_mem (wanted : List Symbol) (name : Text)
    : (sibling name).source ∉ (resolve wanted).map Import.source := by
  have htable : ∀ source ∈ table.map Group.source, "./".toList.isPrefixOf source = false := by
    unfold table
    repeat rw [String.toList_ofList]
    decide
  have hsibling : "./".toList.isPrefixOf (sibling name).source = true := by
    unfold sibling
    rw [List.isPrefixOf_iff_prefix]
    apply List.prefix_append
  intro hmem
  have hfalse := htable _ ((sources_resolve_sublist wanted).subset hmem)
  rw [hsibling] at hfalse
  cases hfalse

/--
Whether import lines bring in the wanted symbols: together they name them in the order of the table,
each line names those of one file of the framework, and no file comes twice.
-/
structure Covers (is : List Import) (wanted : List Symbol) : Prop where
  names_eq : is.flatMap Import.names = (symbols.filter (· ∈ wanted)).map Symbol.name
  group : ∀ i ∈ is, i.names ≠ [] ∧ ∃ g ∈ table, i.source = g.source ∧
    i.names = (g.symbols.filter (· ∈ wanted)).map Symbol.name
  nodup_sources : (is.map Import.source).Nodup

theorem covers_resolve (wanted : List Symbol) : Covers (resolve wanted) wanted := by
  constructor
  . apply flatMap_names_resolve
  . intro i hi
    rcases mem_resolve_iff.1 hi with ⟨g, hg, hne, rfl⟩
    exact ⟨by simpa using hne, g, hg, rfl, rfl⟩
  . apply nodup_sources_resolve

end Import

namespace SourceFile

theorem filter_opensImport_preamble (imports : List Import)
    : (preamble imports).filter opensImport = imports.map Import.line := by
  have hopening : [license, pragma, []].filter opensImport = [] := by
    unfold license pragma opensImport
    repeat rw [String.toList_ofList]
    decide
  have hlines : (imports.map Import.line).filter opensImport = imports.map Import.line := by
    rw [List.filter_eq_self]
    intro l hl
    rcases List.mem_map.1 hl with ⟨i, -, rfl⟩
    apply i.opensImport_line
  unfold preamble importLines
  rw [List.filter_append, hopening, List.nil_append]
  split
  . next hnil =>
    rw [List.isEmpty_iff] at hnil
    subst hnil
    rfl
  . rw [List.filter_append, hlines]
    exact List.append_nil _

theorem IsComposedOf.filter_opensImport_lines {f : SourceFile} {blocks : List (List Text)}
    (h : f.IsComposedOf blocks)
    : f.text.lines.filter opensImport = f.imports.map Import.line := by
  have hheading : opensImport (heading f.name f.bases) = false := by
    rcases exists_heading_eq f.name f.bases with ⟨t, ht⟩
    rw [ht]
    unfold opensImport
    repeat rw [String.toList_ofList]
    rfl
  have hspaced : (Text.spaced blocks).filter opensImport = [] := by
    unfold opensImport
    rw [String.toList_ofList, List.filter_eq_nil_iff]
    intro l hl
    rcases eq_nil_or_space_of_mem_spaced h.blocks hl with rfl | ⟨t, rfl⟩
    . decide
    . simp
  rw [h.lines_text]
  unfold linesWith
  simp only [List.filter_append]
  rw [filter_opensImport_preamble, hspaced, List.filter_cons_of_neg (by simp [hheading])]
  simp [opensImport]

theorem IsComposedOf.importsOf_text {f : SourceFile} {blocks : List (List Text)}
    (h : f.IsComposedOf blocks)
    (hnames : ∀ i ∈ f.imports, ∀ n ∈ i.names, n.isIdentifier = true)
    : importsOf f.text = f.imports := by
  unfold importsOf
  rw [h.filter_opensImport_lines, List.map_map]
  conv_rhs => rw [← List.map_id f.imports]
  apply List.map_congr_left
  intro i hi
  apply Import.readImport_line (h.imports i hi) (hnames i hi)

end SourceFile

end Solidity

namespace Spec

open Solidity

variable {s : Spec}

theorem importsOf_source (h : s.validate = .ok ())
    : importsOf s.source = Import.resolve s.symbols ++ s.base.toList.map Import.sibling := by
  cases s with
  | obligation o =>
    have hvalid := Obligation.validate_eq_ok_iff.1 h
    have hnames : ∀ i ∈ Import.resolve o.symbols, ∀ n ∈ i.names, n.isIdentifier = true := by
      intro i hi
      apply isIdentifier_of_mem_names_resolve hi
    change importsOf o.source = Import.resolve o.symbols ++ []
    rw [List.append_nil]
    exact (Obligation.isComposedOf_sourceFile hvalid).importsOf_text hnames
  | arbiter a =>
    have hvalid := Arbiter.validate_eq_ok_iff.1 h
    have hnames : ∀ i ∈ a.imports, ∀ n ∈ i.names, n.isIdentifier = true := by
      intro i hi
      apply Arbiter.isIdentifier_of_mem_names_imports hvalid hi
    exact (Arbiter.isComposedOf_sourceFile hvalid).importsOf_text hnames

/--
Whether import lines are those of a specification, with nothing in them twice: the framework's, and
behind them the one of the base obligation, if there is one.
-/
structure ImportsOnce (s : Spec) (is : List Import) : Prop where
  imports_eq : is = Import.resolve s.symbols ++ s.base.toList.map Import.sibling
  nodup_names : (is.flatMap Import.names).Nodup
  nodup_sources : (is.map Import.source).Nodup
  base : ∀ base ∈ s.base, ∃ before, is = before ++ [⟨[base], "./" ++ fileName base⟩] ∧
    ∀ i ∈ before, base ∉ i.names

theorem importsOnce_source (h : s.validate = .ok ()) : s.ImportsOnce (importsOf s.source) := by
  rw [importsOf_source h]
  constructor
  . rfl
  . have hnames : (Import.resolve s.symbols ++ s.base.toList.map Import.sibling).flatMap
        Import.names = s.frameworkNames ++ s.base.toList := by
      rw [List.flatMap_append, flatMap_names_resolve]
      cases s.base with
      | none => rfl
      | some base => rfl
    rw [hnames]
    exact nodup_importedNames h
  . rw [List.map_append]
    cases s.base with
    | none => simpa using Import.nodup_sources_resolve s.symbols
    | some base =>
      apply (Import.nodup_sources_resolve s.symbols).append
      . apply List.nodup_singleton
      . simpa using Import.source_sibling_not_mem s.symbols base
  . intro base hbase
    rw [Option.mem_def] at hbase
    refine ⟨Import.resolve s.symbols, by rw [hbase]; rfl, ?_⟩
    intro i hi hmem
    apply not_mem_frameworkNames_of_isBaseName (isBaseName_of_validate h base hbase) (s := s)
    unfold frameworkNames
    rw [← flatMap_names_resolve, List.mem_flatMap]
    exact ⟨i, hi, hmem⟩

end Spec

namespace Solidity

/--
Import lines are complete, minimal and free of duplicates. For any request, the table has a place
for every symbol, the lines name exactly the symbols that are wanted, and they depend on nothing but
which ones are. In the source of a valid specification no name and no file comes twice, and only the
last line names the base obligation.
-/
theorem covers_resolve_and_importsOnce_source
    : (∀ s : Symbol, Import.symbols.count s = 1) ∧
      (∀ wanted : List Symbol, Import.Covers (Import.resolve wanted) wanted) ∧
      (∀ wanted wanted' : List Symbol, (∀ s, s ∈ wanted ↔ s ∈ wanted') →
        Import.resolve wanted = Import.resolve wanted') ∧
      ∀ s : Spec, s.validate = .ok () → s.ImportsOnce (importsOf s.source) := by
  refine ⟨?_, Import.covers_resolve, ?_, ?_⟩
  . intro s
    cases s
    all_goals rfl
  . intro wanted wanted' h
    exact Import.resolve_congr h
  . intro s h
    exact Spec.importsOnce_source h

theorem covers_resolve_and_importsOnce_source_payment
    : Import.resolve [.arbiterUtils, .eas, .arbiterUtils, .attestation] =
        Import.resolve [.attestation, .eas, .arbiterUtils] ∧
      (Spec.arbiter ⟨"PaymentArbiter", some "Payment", [⟨"address", "token"⟩]⟩).validate = .ok () ∧
      ∃ before, importsOf
          (Spec.arbiter ⟨"PaymentArbiter", some "Payment", [⟨"address", "token"⟩]⟩).source =
            before ++ [⟨["Payment"], "./Payment.sol"⟩] := by
  rcases covers_resolve_and_importsOnce_source with ⟨-, -, hcongr, honce⟩
  have hvalid : (Spec.arbiter
      ⟨"PaymentArbiter", some "Payment", [⟨"address", "token"⟩]⟩).validate = .ok () := by
    decide
  refine ⟨?_, hvalid, ?_⟩
  . apply hcongr
    intro s
    cases s
    all_goals decide
  . rcases (honce _ hvalid).base "Payment" rfl with ⟨before, hbefore, -⟩
    exact ⟨before, hbefore⟩

end Solidity

end Scaffold
