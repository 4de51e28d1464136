import Mathlib.Data.List.Infix
import Scaffold.Proofs.Solidity.Import
import Scaffold.Proofs.Solidity.Recovery

/-!
This module contains what an arbiter contract has more if it is made for one base obligation: a few
lines that stand nowhere else in it, and without which it is the generic contract.
-/

namespace Scaffold

namespace Text

/--
Put the lines `new` in the first place where the lines `old` stand.
-/
def replaceFirst (old new : List Text) : List Text → List Text
  | [] => []
  | l :: ls =>
    if old.isPrefixOf (l :: ls) then new ++ (l :: ls).drop old.length
    else l :: replaceFirst old new ls

section Replace

variable {l : Text} {before : List Text} (old new ls : List Text)

theorem replaceFirst_self : replaceFirst (l :: old) new (l :: old ++ ls) = new ++ ls := by
  have hprefix : (l :: old).isPrefixOf (l :: (old ++ ls)) = true := by
    rw [List.isPrefixOf_iff_prefix]
    exact List.prefix_append (l :: old) ls
  rw [List.cons_append, replaceFirst, if_pos hprefix]
  simp

theorem replaceFirst_append (h : l ∉ before)
    : replaceFirst (l :: old) new (before ++ ls) = before ++ replaceFirst (l :: old) new ls := by
  induction before with
  | nil => rfl
  | cons m before ih =>
    rw [List.mem_cons, not_or] at h
    have hprefix : (l :: old).isPrefixOf (m :: (before ++ ls)) = false := by
      rw [List.isPrefixOf_cons_cons, beq_false_of_ne h.1, Bool.false_and]
    rw [List.cons_append, replaceFirst, hprefix]
    rw [if_neg Bool.false_ne_true, ih h.2]
    rfl

end Replace

end Text

namespace Arbiter

open Solidity SourceFile

def importLine (base : Text) : Text :=
  "import \x7b".toList ++ base ++ "\x7d from \"./".toList ++ base ++ ".sol\";"

def referenceLine (base : Text) : Text :=
  "  ".toList ++ base ++ " public immutable baseObligation;"

def constructorLine (base : Text) : Text :=
  "  constructor(".toList ++ base ++ " _baseObligation) \x7b"

def judgeLine : Text :=
  "  function checkObligation("

def schemaLine : Text :=
  "    if (obligation.schema != baseObligation.ATTESTATION_SCHEMA()) revert IncompatibleObligation();"

def demandLine : Text :=
  "    DemandData memory demand_ = abi.decode(demand, (DemandData));"

def adviceLine : Text :=
  "    // and you can also use baseObligation.checkObligation() if appropriate."

def addedLines (base : Text) : List Text :=
  [importLine base, referenceLine base, schemaLine, adviceLine]

def baseConstructor (base : Text) : List Text :=
  [constructorLine base, "    baseObligation = _baseObligation;", "  \x7d"]

def plainConstructor : List Text :=
  ["  constructor() \x7b\x7d"]

/--
The lines of a contract for a base obligation without the ones it has because of it, and with the
constructor that takes nothing. The empty line behind the reference goes with it.
-/
def generalized (base : Text) (lines : List Text) : List Text :=
  let lines := Text.replaceFirst [importLine base] [] lines
  let lines := Text.replaceFirst [referenceLine base, []] [] lines
  let lines := Text.replaceFirst (baseConstructor base) plainConstructor lines
  let lines := Text.replaceFirst [schemaLine] [] lines
  Text.replaceFirst [adviceLine] [] lines

/-
The parts of a contract between the lines that are added for a base obligation.
-/
section Parts

def openingLines : List Text := [
  "// SPDX-License-Identifier: UNLICENSED",
  "pragma solidity ^0.8.26;",
  [],
  "import \x7bAttestation\x7d from \"@eas/Common.sol\";",
  "import \x7bIArbiter\x7d from \"../IArbiter.sol\";",
  "import \x7bArbiterUtils\x7d from \"../ArbiterUtils.sol\";"]

def memberLines (a : Arbiter) : List Text :=
  [[], heading a.name [Symbol.name .arbiter]] ++ usingLines ++
    [] :: (structLines demandStruct a.demandFields ++ [] :: (errorLines ++ [[]]))

def parameterLines : List Text := [
  "    Attestation memory obligation,",
  "    bytes memory demand,",
  "    bytes32 counteroffer",
  "  ) public view override returns (bool) \x7b"]

def judgeLines : List Text :=
  [] :: judgeLine :: parameterLines

def commentLines : List Text := [
  [],
  "    // implement custom checks here.",
  "    // early revert with custom errors is recommended on failure.",
  "    // remember that utility checks are available in ArbiterUtils"]

def closingLines : List Text :=
  ["    // ...", "    return true;", "  \x7d", "\x7d", []]

end Parts

theorem line_sibling (base : Text) : (Import.sibling base).line = importLine base := by
  unfold Import.line Import.sibling fileName importLine
  dsimp only
  rw [Text.join_singleton]
  repeat rw [String.toList_ofList]
  simp

theorem preamble_eq_openingLines : [license, pragma, []] ++
    (Import.resolve [.attestation, .arbiter, .arbiterUtils]).map Import.line = openingLines := by
  have hresolve : Import.resolve [.attestation, .arbiter, .arbiterUtils] =
      [⟨["Attestation"], "@eas/Common.sol"⟩, ⟨["IArbiter"], "../IArbiter.sol"⟩,
        ⟨["ArbiterUtils"], "../ArbiterUtils.sol"⟩] := rfl
  rw [hresolve]
  unfold license pragma openingLines Import.line
  repeat rw [String.toList_ofList]
  rfl

theorem checkLines_false : [] :: (checkLines false ++ [['\x7d'], []]) =
    judgeLines ++ (demandLine :: commentLines ++ closingLines) := by
  unfold checkLines checkHeading decodeLines acceptLines
  unfold judgeLines parameterLines commentLines closingLines judgeLine demandLine
  repeat rw [String.toList_ofList]
  decide +kernel

theorem checkLines_true : [] :: (checkLines true ++ [['\x7d'], []]) =
    judgeLines ++ ([schemaLine] ++ (demandLine :: commentLines ++ ([adviceLine] ++ closingLines))) := by
  unfold checkLines checkHeading guardLine mismatchError decodeLines hintLine acceptLines
  unfold judgeLines parameterLines commentLines closingLines
  unfold judgeLine demandLine schemaLine adviceLine
  repeat rw [String.toList_ofList]
  decide +kernel

section Lines

variable {a : Arbiter} (h : a.IsValid)

include h

theorem lines_source
    : a.source.lines = openingLines ++ (a.base.toList.map importLine ++ (a.memberLines ++
        Text.spaced (constructorBlocks a.base) ++
          [] :: (checkLines a.base.isSome ++ [['\x7d'], []]))) := by
  have hspaced : ∀ bs, bs ≠ [] → ∀ c : List Text, [] :: (Text.spaced bs ++ [] :: c) =
      bs.flatMap ([] :: ·) ++ [] :: c := by
    intro bs hne c
    rcases List.exists_cons_of_ne_nil hne with ⟨b, bs, rfl⟩
    simp [Text.spaced_cons]
  have hne : constructorBlocks a.base ≠ [] := by
    cases a.base <;> simp [constructorBlocks]
  change a.sourceFile.text.lines = _
  rw [(isComposedOf_sourceFile h).lines_text]
  unfold linesWith preamble
  change [license, pragma, []] ++ importLines a.imports ++ _ ++ _ ++ _ ++ _ = _
  rw [importLines_imports, ← preamble_eq_openingLines]
  unfold blocks memberLines
  simp [Text.spaced_cons, hspaced _ hne, sourceFile, line_sibling]

theorem lines_source_of_none (hbase : a.base = none)
    : a.source.lines = openingLines ++ (a.memberLines ++ (plainConstructor ++
        (judgeLines ++ (demandLine :: commentLines ++ closingLines)))) := by
  rw [lines_source h, hbase, Option.isSome_none, checkLines_false]
  unfold constructorBlocks plainConstructor
  simp only [Option.toList_none, List.map_nil, List.nil_append, Text.spaced_cons, List.flatMap_nil,
    List.append_nil, List.append_assoc]

theorem lines_source_of_some {base : Text} (hbase : a.base = some base)
    : a.source.lines = openingLines ++ ([importLine base] ++ (a.memberLines ++
        ([referenceLine base, []] ++ (baseConstructor base ++ (judgeLines ++
          ([schemaLine] ++ (demandLine :: commentLines ++ ([adviceLine] ++ closingLines)))))))) := by
  have hblocks : Text.spaced (constructorBlocks (some base)) =
      [referenceLine base, []] ++ baseConstructor base := by
    unfold constructorBlocks
    rw [Text.spaced_cons, List.flatMap_singleton]
    rfl
  rw [lines_source h, hbase, Option.isSome_some, checkLines_true, hblocks]
  simp only [Option.toList_some, List.map_cons, List.map_nil, List.append_assoc]

end Lines

def startsWithName : Text → Bool
  | ' ' :: ' ' :: c :: _ => startsIdentifier c
  | _ => false

/--
Whether a line looks like one that is added for a base obligation, or like one that opens the
constructor or the check of an obligation. No name has to be known to see this.
-/
def IsMark (l : Text) : Prop :=
  (opensImport l = true ∧ "\x7d from \"./".toList <:+: l) ∨
    (startsWithName l = true ∧ " public immutable baseObligation;".toList <:+ l) ∨
    ("  constructor(".toList <+: l ∧ " _baseObligation) \x7b".toList <:+ l) ∨
    l = judgeLine ∨ l = schemaLine ∨ l = adviceLine

instance (l : Text) : Decidable (IsMark l) := by
  unfold IsMark
  infer_instance

def marks (base : Text) : List Text :=
  [importLine base, referenceLine base, constructorLine base, judgeLine, schemaLine, adviceLine]

theorem addedLines_subset_marks (base : Text) : addedLines base ⊆ marks base := by
  intro l hl
  unfold addedLines at hl
  unfold marks
  simp only [List.mem_cons, List.not_mem_nil, or_false] at hl ⊢
  rcases hl with hl | hl | hl | hl
  . exact .inl hl
  . exact .inr (.inl hl)
  . exact .inr (.inr (.inr (.inr (.inl hl))))
  . exact .inr (.inr (.inr (.inr (.inr hl))))

theorem startsWithName_referenceLine {base : Text} (h : base.isIdentifier = true)
    : startsWithName (referenceLine base) = true := by
  cases base with
  | nil => simp [Text.isIdentifier] at h
  | cons c s =>
    unfold referenceLine
    rw [String.toList_ofList]
    rw [Text.isIdentifier, Bool.and_eq_true] at h
    exact h.1

theorem isMark_of_mem_marks {base : Text} (h : base.isIdentifier = true)
    : ∀ l ∈ marks base, IsMark l := by
  intro l hl
  unfold marks at hl
  simp only [List.mem_cons, List.not_mem_nil, or_false] at hl
  rcases hl with rfl | rfl | rfl | hl | hl | hl
  . left
    constructor
    . rw [← line_sibling]
      apply Import.opensImport_line
    . unfold importLine
      rw [List.append_assoc _ base]
      apply List.infix_append
  . right
    left
    constructor
    . apply startsWithName_referenceLine h
    . apply List.suffix_append
  . right
    right
    left
    constructor
    . unfold constructorLine
      rw [List.append_assoc]
      apply List.prefix_append
    . apply List.suffix_append
  . exact .inr (.inr (.inr (.inl hl)))
  . exact .inr (.inr (.inr (.inr (.inl hl))))
  . exact .inr (.inr (.inr (.inr (.inr hl))))

/-
Apart from the line that opens the check, no line of the fixed parts looks like a marked one.
-/
section Marks

theorem not_isMark_nil : ¬ IsMark [] := by
  unfold IsMark opensImport judgeLine schemaLine adviceLine
  repeat rw [String.toList_ofList]
  decide

theorem not_isMark_fixed : ∀ l ∈ openingLines ++ (usingLines ++ errorLines ++ (parameterLines ++
    (demandLine :: commentLines ++ closingLines))), ¬ IsMark l := by
  unfold openingLines usingLines errorLines mismatchError parameterLines demandLine commentLines
    closingLines IsMark opensImport judgeLine schemaLine adviceLine
  repeat rw [String.toList_ofList]
  decide +kernel

theorem not_isMark_openingLines : ∀ l ∈ openingLines, ¬ IsMark l :=
  (List.forall_mem_append.1 not_isMark_fixed).1

theorem not_isMark_heading (name : Text) (bases : List Text) : ¬ IsMark (heading name bases) := by
  rcases exists_heading_eq name bases with ⟨t, ht⟩
  rw [ht]
  unfold IsMark opensImport judgeLine schemaLine adviceLine
  repeat rw [String.toList_ofList]
  simp [startsWithName]

theorem not_isMark_fieldLine {f : Field} (h : f.check = .ok ()) : ¬ IsMark (fieldLine f) := by
  have hbang : '!' ∉ fieldLine f := not_mem_fieldLine h (by decide) (by decide)
  have hslash : '/' ∉ fieldLine f := not_mem_fieldLine h (by decide) (by decide)
  have hspace : ∃ t, fieldLine f = ' ' :: ' ' :: ' ' :: ' ' :: t := ⟨_, rfl⟩
  rcases hspace with ⟨t, ht⟩
  intro hmark
  rcases hmark with ⟨h, -⟩ | ⟨h, -⟩ | ⟨h, -⟩ | h | h | h
  . rw [ht] at h
    cases h
  . rw [ht] at h
    cases h
  . rw [ht, String.toList_ofList] at h
    simp at h
  . rw [ht] at h
    unfold judgeLine at h
    rw [String.toList_ofList] at h
    cases h
  . rw [h] at hbang
    unfold schemaLine at hbang
    rw [String.toList_ofList] at hbang
    exact hbang (by decide)
  . rw [h] at hslash
    unfold adviceLine at hslash
    rw [String.toList_ofList] at hslash
    exact hslash (by decide)

theorem not_isMark_structLines {fs : FieldList} (h : ∀ f ∈ fs, f.check = .ok ())
    : ∀ l ∈ structLines demandStruct fs, ¬ IsMark l := by
  have hframe : ∀ l ∈ ["  struct ".toList ++ demandStruct ++ " \x7b".toList, "  \x7d".toList],
      ¬ IsMark l := by
    unfold demandStruct IsMark opensImport judgeLine schemaLine adviceLine
    repeat rw [String.toList_ofList]
    decide
  intro l hl
  unfold structLines at hl
  simp only [List.mem_append, List.mem_map, List.mem_singleton] at hl
  rcases hl with (hl | ⟨f, hf, rfl⟩) | hl
  . exact hframe l (List.mem_cons.2 (.inl hl))
  . apply not_isMark_fieldLine (h f hf)
  . exact hframe l (List.mem_cons_of_mem _ (List.mem_singleton.2 hl))

theorem not_isMark_memberLines {a : Arbiter} (h : a.IsValid)
    : ∀ l ∈ a.memberLines, ¬ IsMark l := by
  have hfixed := not_isMark_fixed
  rw [List.forall_mem_append, List.forall_mem_append] at hfixed
  intro l hl
  unfold memberLines at hl
  simp only [List.mem_append, List.mem_cons, List.not_mem_nil, or_false] at hl
  rcases hl with ((rfl | rfl) | hl) | rfl | hl | rfl | hl | rfl
  . exact not_isMark_nil
  . apply not_isMark_heading
  . exact hfixed.2.1 l (List.mem_append_left _ hl)
  . exact not_isMark_nil
  . exact not_isMark_structLines h.demandFields.check l hl
  . exact not_isMark_nil
  . exact hfixed.2.1 l (List.mem_append_right _ hl)
  . exact not_isMark_nil

end Marks

theorem nodup_marks {base : Text} (h : base.isIdentifier = true) : (marks base).Nodup := by
  have hlast : ∀ (s : Text) {t : Text} {c : Char}, t.getLast? = some c →
      (s ++ t).getLast? = some c := by
    intro s t c ht
    rw [List.getLast?_append, ht]
    rfl
  have htags : (marks base).map (fun l => (l.head?, startsWithName l, l.getLast?)) =
      [(some 'i', false, some ';'), (some ' ', true, some ';'), (some ' ', true, some '\x7b'),
        (some ' ', true, some '('), (some ' ', false, some ';'), (some ' ', false, some '.')] := by
    have himport : (importLine base).getLast? = some ';' := hlast _ rfl
    have hreference : (referenceLine base).getLast? = some ';' := hlast _ rfl
    have hconstructor : (constructorLine base).getLast? = some '\x7b' := hlast _ rfl
    unfold marks
    simp only [List.map_cons, List.map_nil, himport, hreference, hconstructor]
    rw [startsWithName_referenceLine h]
    unfold importLine referenceLine constructorLine judgeLine schemaLine adviceLine
    repeat rw [String.toList_ofList]
    rfl
  apply List.Nodup.of_map
  rw [htags]
  decide

section Specialized

variable {a : Arbiter} {base : Text} (h : a.IsValid) (hbase : a.base = some base)

include h hbase

theorem filter_isMark_lines : a.source.lines.filter (IsMark ·) = marks base := by
  have hmark := isMark_of_mem_marks (isIdentifier_of_isBaseName (h.base base hbase))
  have hfilter : ∀ {ls : List Text}, (∀ l ∈ ls, ¬ IsMark l) → ls.filter (IsMark ·) = [] := by
    intro ls hls
    rw [List.filter_eq_nil_iff]
    intro l hl
    rw [decide_eq_true_eq]
    exact hls l hl
  have hconstructor : ¬ IsMark "    baseObligation = _baseObligation;" ∧ ¬ IsMark "  \x7d" := by
    unfold IsMark opensImport judgeLine schemaLine adviceLine
    repeat rw [String.toList_ofList]
    decide
  unfold marks at hmark
  simp only [List.forall_mem_cons] at hmark
  rcases hmark with ⟨himport, hreference, hopen, hjudge, hschema, hadvice, -⟩
  have hfixed := not_isMark_fixed
  simp only [List.forall_mem_append] at hfixed
  rcases hfixed with ⟨hopening, -, hparameter, hcomment, hclosing⟩
  rw [lines_source_of_some h hbase]
  unfold baseConstructor judgeLines
  simp only [List.filter_append]
  rw [hfilter hopening, hfilter (not_isMark_memberLines h)]
  rw [hfilter hcomment, hfilter hclosing]
  simp only [List.filter_cons, himport, hreference, hopen, hjudge, hschema, hadvice,
    hconstructor.1, hconstructor.2, not_isMark_nil, decide_true, decide_false, if_true]
  rw [hfilter hparameter]
  rfl

theorem count_lines_of_mem_marks {l : Text} (hl : l ∈ marks base) : a.source.lines.count l = 1 := by
  have hname := isIdentifier_of_isBaseName (h.base base hbase)
  calc
    a.source.lines.count l = (a.source.lines.filter (IsMark ·)).count l := by
      rw [List.count_filter]
      rw [decide_eq_true_eq]
      exact isMark_of_mem_marks hname l hl
    _ = (marks base).count l := by rw [filter_isMark_lines h hbase]
    _ = 1 := List.count_eq_one_of_mem (nodup_marks hname) hl

theorem generalized_lines
    : generalized base a.source.lines = (source { a with base := none }).lines := by
  have hgeneric : IsValid { a with base := none } := ⟨h.name, by simp, h.demandFields⟩
  have hmark := isMark_of_mem_marks (isIdentifier_of_isBaseName (h.base base hbase))
  have hopening : ∀ m ∈ marks base, m ∉ openingLines := by
    intro m hm hmem
    exact not_isMark_openingLines m hmem (hmark m hm)
  have hmembers : ∀ m ∈ marks base, m ∉ a.memberLines := by
    intro m hm hmem
    exact not_isMark_memberLines h m hmem (hmark m hm)
  have hschema : schemaLine ∉ plainConstructor ∧ schemaLine ∉ judgeLines := by
    unfold plainConstructor judgeLines parameterLines judgeLine schemaLine
    repeat rw [String.toList_ofList]
    decide
  have hadvice : adviceLine ∉ plainConstructor ∧ adviceLine ∉ judgeLines ∧
      adviceLine ∉ demandLine :: commentLines := by
    unfold plainConstructor judgeLines parameterLines judgeLine adviceLine demandLine commentLines
    repeat rw [String.toList_ofList]
    decide
  unfold marks at hopening hmembers
  simp only [List.forall_mem_cons] at hopening hmembers
  rcases hopening with ⟨oimport, oreference, oconstructor, -, oschema, oadvice, -⟩
  rcases hmembers with ⟨-, mreference, mconstructor, -, mschema, madvice, -⟩
  rw [lines_source_of_some h hbase, lines_source_of_none hgeneric rfl]
  unfold generalized baseConstructor
  dsimp only
  rw [Text.replaceFirst_append _ _ _ oimport]
  rw [Text.replaceFirst_self, List.nil_append]
  rw [Text.replaceFirst_append _ _ _ oreference, Text.replaceFirst_append _ _ _ mreference]
  rw [Text.replaceFirst_self, List.nil_append]
  rw [Text.replaceFirst_append _ _ _ oconstructor, Text.replaceFirst_append _ _ _ mconstructor]
  rw [Text.replaceFirst_self]
  rw [Text.replaceFirst_append _ _ _ oschema, Text.replaceFirst_append _ _ _ mschema]
  rw [Text.replaceFirst_append _ _ _ hschema.1, Text.replaceFirst_append _ _ _ hschema.2]
  rw [Text.replaceFirst_self, List.nil_append]
  rw [Text.replaceFirst_append _ _ _ oadvice, Text.replaceFirst_append _ _ _ madvice]
  rw [Text.replaceFirst_append _ _ _ hadvice.1, Text.replaceFirst_append _ _ _ hadvice.2.1]
  rw [Text.replaceFirst_append _ _ _ hadvice.2.2]
  rw [Text.replaceFirst_self, List.nil_append]
  rfl

theorem judge_infix_lines
    : judgeLine :: (parameterLines ++ [schemaLine, demandLine]) <:+: a.source.lines := by
  rw [lines_source_of_some h hbase]
  refine ⟨openingLines ++ ([importLine base] ++ (a.memberLines ++ ([referenceLine base, []] ++
    (baseConstructor base ++ [[]])))), commentLines ++ ([adviceLine] ++ closingLines), ?_⟩
  unfold judgeLines
  simp only [List.append_assoc, List.cons_append, List.nil_append]

end Specialized

/--
Whether the lines of a contract hold, once each, the lines that are added for the base obligation,
and the body of the check, of which there is one, starts with the comparison of the schemas.
-/
structure IsGuarded (base : Text) (lines : List Text) : Prop where
  added : ∀ l ∈ addedLines base, lines.count l = 1
  judge : lines.count judgeLine = 1
  schema : judgeLine :: (parameterLines ++ [schemaLine, demandLine]) <:+: lines

/--
To make an arbiter for one base obligation adds the comparison of the schemas, what it needs and a
piece of advice, and nothing else: without them the contract is that of the generic arbiter.
-/
theorem generalized_source (a : Arbiter) (base : Text) (hbase : a.base = some base)
    (h : a.validate = .ok ())
    : IsGuarded base a.source.lines ∧
        Text.join ['\n'] (generalized base a.source.lines) = source { a with base := none } := by
  rw [validate_eq_ok_iff] at h
  refine ⟨⟨?_, ?_, judge_infix_lines h hbase⟩, ?_⟩
  . intro l hl
    apply count_lines_of_mem_marks h hbase
    exact addedLines_subset_marks base hl
  . apply count_lines_of_mem_marks h hbase
    simp [marks]
  . rw [generalized_lines h hbase, Text.join_lines]

theorem generalized_source_payment
    : Arbiter.validate ⟨"PaymentArbiter", some "Payment",
          [⟨"Payment public immutable", "baseObligation"⟩]⟩ = .ok () ∧
        (source ⟨"PaymentArbiter", some "Payment",
          [⟨"Payment public immutable", "baseObligation"⟩]⟩).lines.count
            (referenceLine "Payment") = 1 ∧
        Text.join ['\n'] (generalized "Payment" (source ⟨"PaymentArbiter", some "Payment",
          [⟨"Payment public immutable", "baseObligation"⟩]⟩).lines) =
            source ⟨"PaymentArbiter", none, [⟨"Payment public immutable", "baseObligation"⟩]⟩ := by
  have hvalid : Arbiter.validate ⟨"PaymentArbiter", some "Payment",
      [⟨"Payment public immutable", "baseObligation"⟩]⟩ = .ok () := by
    repeat rw [String.toList_ofList]
    decide
  rcases generalized_source ⟨"PaymentArbiter", some "Payment",
    [⟨"Payment public immutable", "baseObligation"⟩]⟩ "Payment" rfl hvalid with ⟨hguarded, hsource⟩
  refine ⟨hvalid, ?_, hsource⟩
  apply hguarded.added
  simp [addedLines]

end Arbiter

end Scaffold
