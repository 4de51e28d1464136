import Scaffold.Proofs.Solidity.Arbiter

/-!
This module contains what can be found again in the text of a source file: its preamble, the line
that opens the contract and the lines of its members, and from these the name, the fields of each
struct and the number of methods. So two specifications give the same source only if they agree on
everything that has an effect.
-/

namespace Scaffold

namespace Solidity

section Struct

variable {name : Text} {fs gs : FieldList} {r t : List Text}

theorem eq_of_map_fieldLine_eq (hfs : ∀ f ∈ fs, f.check = .ok ())
    (hgs : ∀ g ∈ gs, g.check = .ok ()) (h : fs.map fieldLine = gs.map fieldLine)
    : fs = gs := by
  have hline : fieldLine = (fun d => "    ".toList ++ d ++ ";".toList) ∘ Field.declaration := rfl
  rw [hline, ← List.map_map, ← List.map_map] at h
  have hdeclarations : fs.map Field.declaration = gs.map Field.declaration := by
    apply List.map_injective_iff.2 _ h
    intro d e hde
    simpa using hde
  apply FieldList.signature_injective hfs hgs
  unfold FieldList.signature
  rw [hdeclarations]

theorem structLines_append_inj (hfs : ∀ f ∈ fs, f.check = .ok ())
    (hgs : ∀ g ∈ gs, g.check = .ok ()) (h : structLines name fs ++ r = structLines name gs ++ t)
    : fs = gs ∧ r = t := by
  have hbrace : ∀ hs : FieldList, "  \x7d".toList ∉ hs.map fieldLine := by
    intro hs hmem
    rcases List.mem_map.1 hmem with ⟨f, -, hf⟩
    exact fieldLine_ne_brace f hf
  unfold structLines at h
  rw [List.append_assoc, List.append_assoc, List.append_assoc, List.append_assoc] at h
  rcases eq_of_append_cons_eq (hbrace gs) (hbrace fs) (List.append_cancel_left h) with
    ⟨hfields, -, hrest⟩
  exact ⟨eq_of_map_fieldLine_eq hfs hgs hfields, hrest⟩

end Struct

theorem line_sibling_inj {n m : Text} (hn : IsPlain n) (hm : IsPlain m)
    (h : (Import.sibling n).line = (Import.sibling m).line)
    : n = m := by
  have hbrace : brackets.isBracket '\x7d' = true := by decide
  unfold Import.line Import.sibling at h
  dsimp only at h
  rw [Text.join_singleton, Text.join_singleton] at h
  simp only [List.append_assoc, List.append_cancel_left_eq] at h
  exact (eq_of_append_cons_eq (hm.not_mem_of_isBracket hbrace) (hn.not_mem_of_isBracket hbrace) h).1

namespace SourceFile

variable {name name' : Text} {bases bases' : List Text}

theorem name_eq_of_heading_eq (hname : ' ' ∉ name) (hname' : ' ' ∉ name')
    (h : heading name bases = heading name' bases')
    : name = name' := by
  rcases exists_heading_eq name bases with ⟨t, ht⟩
  rcases exists_heading_eq name' bases' with ⟨t', ht'⟩
  rw [ht, ht', List.append_cancel_left_eq] at h
  exact (eq_of_append_cons_eq hname' hname h).1

/--
The line that opens the contract is the only one of its kind, so the lines in front of it and behind
it are found again.
-/
theorem IsComposedOf.parts_eq {f g : SourceFile} {bs cs : List (List Text)}
    (hf : f.IsComposedOf bs) (hg : g.IsComposedOf cs) (h : f.text = g.text)
    : preamble f.imports = preamble g.imports ∧
        heading f.name f.bases = heading g.name g.bases ∧
          Text.spaced bs = Text.spaced cs := by
  have hheading : ∀ (is : List Import) (n : Text) (ns : List Text), heading n ns ∉ preamble is := by
    intro is n ns hmem
    have hopens := not_opensContract_preamble hmem
    rw [opensContract_heading] at hopens
    cases hopens
  have hlines := congrArg Text.lines h
  rw [hf.lines_text, hg.lines_text, List.append_cancel_right_eq] at hlines
  unfold linesWith at hlines
  rw [List.append_cancel_right_eq] at hlines
  rw [List.append_assoc, List.append_assoc] at hlines
  rcases eq_of_append_cons_eq (hheading _ _ _) (hheading _ _ _) hlines with
    ⟨hpreamble, hheading, hbody⟩
  exact ⟨hpreamble, hheading, hbody⟩

end SourceFile

end Solidity

namespace Obligation

open Solidity SourceFile

/--
Two obligations that agree on everything that has an effect. A count of ways to end has none if the
obligation cannot be revoked, and demand fields have none without verification.
-/
structure Agrees (a b : Obligation) : Prop where
  name : a.name = b.name
  hasVerification : a.hasVerification = b.hasVerification
  isRevocable : a.isRevocable = b.isRevocable
  dataFields : a.dataFields = b.dataFields
  terms : a.terms = b.terms
  demandFields : a.hasVerification = true → a.demandFields = b.demandFields

theorem length_preamble (o : Obligation)
    : (preamble (Import.resolve o.symbols)).length = if o.hasVerification then 10 else 8 := by
  unfold symbols
  cases o.hasVerification
  . cases o.isRevocable
    . rfl
    . rfl
  . cases o.isRevocable
    . rfl
    . rfl

def closingLines (o : Obligation) : List Text :=
  ((List.range o.terms).map finalizationLines ++ o.verificationBlocks [checkLines]).flatMap
    ([] :: ·)

theorem length_closingLines (o : Obligation)
    : o.closingLines.length = 14 * o.terms + if o.hasVerification then 16 else 0 := by
  have hfinalization : ∀ ns : List Nat,
      ((ns.map finalizationLines).flatMap ([] :: ·)).length = 14 * ns.length := by
    intro ns
    induction ns with
    | nil => rfl
    | cons n ns ih =>
      have hlength : (finalizationLines n).length = 13 := rfl
      rw [List.map_cons, List.flatMap_cons, List.length_append, ih]
      simp only [List.length_cons, hlength]
      omega
  unfold closingLines verificationBlocks
  rw [List.flatMap_append, List.length_append, hfinalization, List.length_range]
  cases o.hasVerification
  . rfl
  . rfl

theorem spaced_blocks (o : Obligation)
    : Text.spaced o.blocks =
        (if o.hasVerification then usingLines ++ [[]] else []) ++
          (structLines dataStruct o.dataFields ++
            ((if o.hasVerification then [] :: structLines demandStruct (o.demandFields.getD [])
              else []) ++
              [] :: (o.constructorLines ++ [] :: (o.makeLines ++ o.closingLines)))) := by
  unfold blocks closingLines verificationBlocks
  cases o.hasVerification
  . simp [Text.spaced_cons]
  . simp [Text.spaced_cons]

theorem literal_injective {p q : Bool} (h : literal p = literal q) : p = q := by
  revert p q
  decide

theorem isRevocable_eq_of_constructorLines_eq {a b : Obligation}
    (hfields : a.dataFields = b.dataFields) (h : a.constructorLines = b.constructorLines)
    : a.isRevocable = b.isRevocable := by
  unfold constructorLines at h
  have hline := (List.cons.inj (List.cons.inj h).2).1
  rw [hfields] at hline
  rw [List.append_cancel_right_eq, List.append_cancel_left_eq] at hline
  apply literal_injective hline

section Recovery

variable {a b : Obligation} (ha : a.IsValid) (hb : b.IsValid)

include ha hb

theorem agrees_of_spaced_blocks_eq (hname : a.name = b.name)
    (hverification : a.hasVerification = b.hasVerification)
    (h : Text.spaced a.blocks = Text.spaced b.blocks)
    : a.Agrees b := by
  rw [spaced_blocks, spaced_blocks, hverification, List.append_cancel_left_eq] at h
  rcases structLines_append_inj ha.dataFields.check hb.dataFields.check h with ⟨hdata, hrest⟩
  -- The struct of the demand is there only with verification, so only then it can be read back.
  have hdemand : (b.hasVerification = true → a.demandFields = b.demandFields) ∧
      a.constructorLines ++ [] :: (a.makeLines ++ a.closingLines) =
        b.constructorLines ++ [] :: (b.makeLines ++ b.closingLines) := by
    cases hv : b.hasVerification with
    | false =>
      rw [hv] at hrest
      exact ⟨by simp, by simpa using hrest⟩
    | true =>
      rw [hv] at hrest
      rcases ha.demandFields (hverification.trans hv) with ⟨d, hd, hdvalid⟩
      rcases hb.demandFields hv with ⟨e, he, hevalid⟩
      rw [hd, he] at hrest
      rw [if_pos rfl, if_pos rfl, List.cons_append, List.cons_append] at hrest
      rcases structLines_append_inj hdvalid.check hevalid.check (List.cons.inj hrest).2 with
        ⟨hde, htail⟩
      rw [hd, he]
      exact ⟨fun _ => congrArg some hde, (List.cons.inj htail).2⟩
  rcases List.append_inj hdemand.2 rfl with ⟨hconstructor, hmake⟩
  -- All methods that end an obligation have the same number of lines, so the lines count them.
  have hclosing := congrArg List.length (List.append_inj (List.cons.inj hmake).2 rfl).2
  rw [length_closingLines, length_closingLines, hverification] at hclosing
  constructor
  . exact hname
  . exact hverification
  . exact isRevocable_eq_of_constructorLines_eq hdata hconstructor
  . exact hdata
  . omega
  . intro hv
    exact hdemand.1 (hverification.symm.trans hv)

theorem agrees_of_source_eq (h : a.source = b.source) : a.Agrees b := by
  rcases (isComposedOf_sourceFile ha).parts_eq (isComposedOf_sourceFile hb) h with
    ⟨hpreamble, hheading, hblocks⟩
  have hverification : a.hasVerification = b.hasVerification := by
    have hlength := congrArg List.length hpreamble
    change (preamble (Import.resolve a.symbols)).length =
      (preamble (Import.resolve b.symbols)).length at hlength
    rw [length_preamble, length_preamble] at hlength
    cases hav : a.hasVerification
    all_goals
      cases hbv : b.hasVerification
      all_goals simp [hav, hbv] at hlength ⊢
  apply agrees_of_spaced_blocks_eq ha hb _ hverification hblocks
  exact name_eq_of_heading_eq (Text.not_mem_of_isIdentifier ha.name (by decide))
    (Text.not_mem_of_isIdentifier hb.name (by decide)) hheading

end Recovery

theorem source_eq_of_agrees {a b : Obligation} (h : a.Agrees b) : a.source = b.source := by
  have hsymbols : a.symbols = b.symbols := by
    unfold symbols
    rw [h.isRevocable, h.hasVerification]
  have hdemand : a.verificationBlocks [structLines demandStruct (a.demandFields.getD [])] =
      b.verificationBlocks [structLines demandStruct (b.demandFields.getD [])] := by
    unfold verificationBlocks
    rw [← h.hasVerification]
    cases hv : a.hasVerification with
    | false => rfl
    | true => rw [h.demandFields hv]
  have hblocks : a.blocks = b.blocks := by
    unfold blocks
    rw [hdemand, h.dataFields, h.terms]
    unfold verificationBlocks constructorLines makeLines
    rw [h.hasVerification, h.isRevocable, h.dataFields]
  unfold source sourceFile
  rw [h.name, h.hasVerification, hsymbols, hblocks]

end Obligation

namespace Arbiter

open Solidity SourceFile

theorem importLines_imports (a : Arbiter)
    : importLines a.imports =
        (Import.resolve [.attestation, .arbiter, .arbiterUtils]).map Import.line ++
          (a.base.toList.map (fun base => (Import.sibling base).line) ++ [[]]) := by
  have hne : a.imports.isEmpty = false := rfl
  unfold importLines
  rw [hne]
  unfold imports
  simp [List.append_assoc, Function.comp_def]

theorem base_eq_of_preamble_eq {a b : Arbiter} (ha : a.IsValid) (hb : b.IsValid)
    (h : preamble a.imports = preamble b.imports)
    : a.base = b.base := by
  unfold preamble at h
  rw [List.append_cancel_left_eq, importLines_imports, importLines_imports] at h
  rw [List.append_cancel_left_eq, List.append_cancel_right_eq] at h
  cases hab : a.base with
  | none =>
    cases hbb : b.base with
    | none => rfl
    | some m => simp [hab, hbb] at h
  | some n =>
    cases hbb : b.base with
    | none => simp [hab, hbb] at h
    | some m =>
      rw [hab, hbb] at h
      have hline := (List.cons.inj h).1
      rw [line_sibling_inj (isPlain_base ha hab) (isPlain_base hb hbb) hline]

theorem demandFields_eq_of_spaced_blocks_eq {a b : Arbiter} (ha : a.IsValid) (hb : b.IsValid)
    (h : Text.spaced a.blocks = Text.spaced b.blocks)
    : a.demandFields = b.demandFields := by
  have hspaced : ∀ c : Arbiter, ∃ t,
      Text.spaced c.blocks =
        usingLines ++ [[]] ++ (structLines demandStruct c.demandFields ++ t) := by
    intro c
    refine ⟨(errorLines :: (constructorBlocks c.base ++ [checkLines c.base.isSome])).flatMap
      ([] :: ·), ?_⟩
    unfold blocks
    simp [Text.spaced_cons]
  rcases hspaced a with ⟨t, ht⟩
  rcases hspaced b with ⟨u, hu⟩
  rw [ht, hu, List.append_cancel_left_eq] at h
  exact (structLines_append_inj ha.demandFields.check hb.demandFields.check h).1

theorem eq_of_source_eq {a b : Arbiter} (ha : a.IsValid) (hb : b.IsValid)
    (h : a.source = b.source)
    : a = b := by
  rcases (isComposedOf_sourceFile ha).parts_eq (isComposedOf_sourceFile hb) h with
    ⟨hpreamble, hheading, hblocks⟩
  have hname := name_eq_of_heading_eq (Text.not_mem_of_isIdentifier ha.name (by decide))
    (Text.not_mem_of_isIdentifier hb.name (by decide)) hheading
  have hbase := base_eq_of_preamble_eq ha hb hpreamble
  have hdemand := demandFields_eq_of_spaced_blocks_eq ha hb hblocks
  rcases a with ⟨name, base, demandFields⟩
  subst hname hbase hdemand
  rfl

end Arbiter

namespace Solidity

theorem SourceFile.prefix_text {f : SourceFile} {i j : Import} {is : List Import}
    (h : f.imports = i :: j :: is)
    : Text.unlines [license, pragma, [], i.line] ++ j.line <+: f.text := by
  have himports : importLines (i :: j :: is) = i.line :: j.line :: (is.map Import.line ++ [[]]) :=
    rfl
  unfold text preamble
  rw [h, himports]
  simp [Text.unlines_append]

end Solidity

open Solidity

theorem source_ne_source (o : Obligation) (a : Arbiter) : o.source ≠ a.source := by
  have ho : ∃ names source is, o.sourceFile.imports =
      ⟨[Symbol.name .attestation], "@eas/Common.sol"⟩ ::
        ⟨Symbol.name .eas :: names, source⟩ :: is := by
    unfold Obligation.sourceFile Obligation.symbols
    cases o.isRevocable
    all_goals
      cases o.hasVerification
      all_goals exact ⟨_, _, _, rfl⟩
  have ha : ∃ source is, a.sourceFile.imports =
      ⟨[Symbol.name .attestation], "@eas/Common.sol"⟩ ::
        ⟨[Symbol.name .arbiter], source⟩ :: is :=
    ⟨_, _, rfl⟩
  rcases ho with ⟨names, source, is, ho⟩
  rcases ha with ⟨source', is', ha⟩
  intro h
  have hprefix := SourceFile.prefix_text ho
  have hprefix' := SourceFile.prefix_text ha
  change _ <+: o.source at hprefix
  change _ <+: a.source at hprefix'
  rw [h] at hprefix
  have hline : Import.line ⟨Symbol.name .eas :: names, source⟩ <+:
        Import.line ⟨[Symbol.name .arbiter], source'⟩ ∨
      Import.line ⟨[Symbol.name .arbiter], source'⟩ <+:
        Import.line ⟨Symbol.name .eas :: names, source⟩ := by
    rcases List.prefix_or_prefix_of_prefix hprefix hprefix' with h | h
    . exact .inl ((List.prefix_append_right_inj _).1 h)
    . exact .inr ((List.prefix_append_right_inj _).1 h)
  rcases Text.exists_join_cons_eq_append ", " (Symbol.name .eas) names with ⟨t, ht⟩
  unfold Import.line at hline
  dsimp only at hline
  rw [ht, Text.join_singleton] at hline
  unfold Symbol.name at hline
  repeat rw [String.toList_ofList] at hline
  simp at hline

/--
The source of a contract is determined by what has an effect in a valid specification, and it
determines all of it. No obligation contract is an arbiter contract.
-/
theorem source_eq_source_iff
    : (∀ a b : Obligation, a.validate = .ok () → b.validate = .ok () →
        (a.source = b.source ↔ a.Agrees b)) ∧
      (∀ a b : Arbiter, a.validate = .ok () → b.validate = .ok () →
        (a.source = b.source ↔ a = b)) ∧
      (∀ (o : Obligation) (a : Arbiter), o.source ≠ a.source) := by
  refine ⟨?_, ?_, source_ne_source⟩
  . intro a b ha hb
    rw [Obligation.validate_eq_ok_iff] at ha hb
    constructor
    . exact Obligation.agrees_of_source_eq ha hb
    . exact Obligation.source_eq_of_agrees
  . intro a b ha hb
    rw [Arbiter.validate_eq_ok_iff] at ha hb
    constructor
    . exact Arbiter.eq_of_source_eq ha hb
    . intro h
      rw [h]

theorem source_eq_source_iff_base
    : (Obligation.validate ⟨"A", false, false, 3, [⟨"address payable", "to"⟩], some []⟩ = .ok () ∧
        Obligation.validate ⟨"A", false, false, 0, [⟨"address payable", "to"⟩], none⟩ = .ok () ∧
        Obligation.source ⟨"A", false, false, 3, [⟨"address payable", "to"⟩], some []⟩ =
          Obligation.source ⟨"A", false, false, 0, [⟨"address payable", "to"⟩], none⟩) ∧
      (Obligation.validate ⟨"A", false, true, 1, [⟨"uint256", "n"⟩], none⟩ = .ok () ∧
        Obligation.validate ⟨"A", false, true, 2, [⟨"uint256", "n"⟩], none⟩ = .ok () ∧
        Obligation.source ⟨"A", false, true, 1, [⟨"uint256", "n"⟩], none⟩ ≠
          Obligation.source ⟨"A", false, true, 2, [⟨"uint256", "n"⟩], none⟩) ∧
      Arbiter.validate ⟨"A", some "B", [⟨"uint256", "n"⟩]⟩ = .ok () ∧
      Arbiter.validate ⟨"A", none, [⟨"uint256", "n"⟩]⟩ = .ok () ∧
      Arbiter.source ⟨"A", some "B", [⟨"uint256", "n"⟩]⟩ ≠
        Arbiter.source ⟨"A", none, [⟨"uint256", "n"⟩]⟩ := by
  rcases source_eq_source_iff with ⟨hobligation, harbiter, -⟩
  have ha : Obligation.validate ⟨"A", false, false, 3, [⟨"address payable", "to"⟩], some []⟩ =
      .ok () := by
    decide
  have hb : Obligation.validate ⟨"A", false, false, 0, [⟨"address payable", "to"⟩], none⟩ =
      .ok () := by
    decide
  have hone : Obligation.validate ⟨"A", false, true, 1, [⟨"uint256", "n"⟩], none⟩ = .ok () := by
    decide
  have htwo : Obligation.validate ⟨"A", false, true, 2, [⟨"uint256", "n"⟩], none⟩ = .ok () := by
    decide
  have hc : Arbiter.validate ⟨"A", some "B", [⟨"uint256", "n"⟩]⟩ = .ok () := by
    decide
  have hd : Arbiter.validate ⟨"A", none, [⟨"uint256", "n"⟩]⟩ = .ok () := by
    decide
  refine ⟨⟨ha, hb, ?_⟩, ⟨hone, htwo, ?_⟩, hc, hd, ?_⟩
  . rw [hobligation _ _ ha hb]
    exact ⟨rfl, rfl, rfl, rfl, rfl, by decide⟩
  . rw [Ne, hobligation _ _ hone htwo]
    intro hagrees
    exact absurd hagrees.terms (by decide)
  . rw [Ne, harbiter _ _ hc hd]
    decide

end Scaffold
