import Scaffold.Proofs.Solidity.Member

/-!
This module contains what it means for a source file to be well formed, and the proof that a source
file is if it is composed of members of a contract and of plain names.
-/

namespace Scaffold

namespace Solidity

structure Import.IsPlain (i : Import) : Prop where
  names : ∀ n ∈ i.names, Solidity.IsPlain n
  source : Solidity.IsPlain i.source

def IsNested (s : Text) : Prop :=
  brackets.Nested (s.filter brackets.isBracket)

def opensContract (l : Text) : Bool :=
  "contract ".toList.isPrefixOf l

/--
Whether a source file consists of the lines `before`, a contract with the given body that is opened
by the line `stem` and a brace, and nothing else. The brace is closed by the last one of the file.
-/
structure Frames (before : List Text) (stem body source : Text) : Prop where
  source_eq : source = Text.unlines before ++ (stem ++ ['\x7b', '\n'] ++ (body ++ ['\x7d', '\n']))
  before_lines : ∀ l ∈ before,
    l = "// SPDX-License-Identifier: UNLICENSED".toList ∨ l = "pragma solidity ^0.8.26;".toList ∨
      (∃ i : Import, i.IsPlain ∧
        l = "import \x7b" ++ Text.join ", " i.names ++ "\x7d from \"" ++ i.source ++ "\";") ∨
      l = []
  isNested_before : IsNested (Text.unlines before)
  stem_brackets : stem.filter brackets.isBracket = []
  isNested_body : IsNested body
  contract_lines : source.lines.filter opensContract = [stem ++ ['\x7b']]

/--
Whether the text of a source file is well formed: its brackets are properly nested, no string goes
over the end of a line, and it holds one contract, which is its last part.
-/
structure WellFormed (source : Text) : Prop where
  isNested : IsNested source
  quotes : ∀ l ∈ source.lines, l.count '"' % 2 = 0
  frames : ∃ before stem body, Frames before stem body source

namespace Import

variable {i : Import}

theorem IsPlain.isLine_line (h : i.IsPlain) : IsLine i.line := by
  have hnames := Solidity.IsPlain.join_comma h.names
  unfold line
  repeat rw [String.toList_ofList]
  rw [List.append_assoc, List.append_assoc, List.append_assoc]
  apply IsLine.insert
  . rw [← List.append_assoc]
    apply IsLine.insert
    . decide
    . apply h.source.isQuotable
  . apply hnames.isQuotable

theorem IsPlain.settles_line (h : i.IsPlain) : brackets.settles [] i.line = true := by
  have hnames := Solidity.IsPlain.join_comma h.names
  unfold line
  repeat rw [String.toList_ofList]
  rw [List.append_assoc, List.append_assoc, List.append_assoc]
  change brackets.settles ['\x7d'] (Text.join ", " i.names ++ _) = true
  rw [hnames.settles_append]
  change brackets.settles [] (i.source ++ _) = true
  rw [h.source.settles_append]
  decide

theorem not_opensContract_line (i : Import) : opensContract i.line = false := by
  unfold line opensContract
  repeat rw [String.toList_ofList]
  rfl

end Import

namespace SourceFile

variable {name : Text} {bases : List Text}

def stem (name : Text) (bases : List Text) : Text :=
  let inheritance : Text := if bases.isEmpty then [] else " is " ++ Text.join ", " bases
  "contract " ++ name ++ inheritance ++ " "

theorem heading_eq_stem (name : Text) (bases : List Text)
    : heading name bases = stem name bases ++ ['\x7b'] := by
  unfold heading stem
  dsimp only
  repeat rw [String.toList_ofList]
  simp only [List.append_assoc]
  rfl

theorem isPlain_stem (hname : IsPlain name) (hbases : ∀ b ∈ bases, IsPlain b)
    : IsPlain (stem name bases) := by
  have hjoin := IsPlain.join_comma hbases
  unfold stem
  dsimp only
  repeat rw [String.toList_ofList]
  apply IsPlain.append
  . apply IsPlain.append
    . apply IsPlain.append
      . decide
      . exact hname
    . split
      . decide
      . apply IsPlain.append
        . decide
        . exact hjoin
  . decide

theorem opensContract_heading (name : Text) (bases : List Text)
    : opensContract (heading name bases) = true := by
  unfold heading opensContract
  rw [List.isPrefixOf_iff_prefix]
  simp only [List.append_assoc]
  apply List.prefix_append

theorem exists_heading_eq (name : Text) (bases : List Text)
    : ∃ t, heading name bases = "contract ".toList ++ (name ++ ' ' :: t) := by
  have hspace : ∃ t, (if bases.isEmpty then [] else " is ".toList ++ Text.join ", " bases) ++
      " \x7b".toList = ' ' :: t := by
    split
    . exact ⟨_, rfl⟩
    . exact ⟨_, rfl⟩
  rcases hspace with ⟨t, ht⟩
  refine ⟨t, ?_⟩
  unfold heading
  dsimp only
  rw [List.append_assoc, List.append_assoc, ht]

theorem mem_preamble {imports : List Import} {l : Text} (h : l ∈ preamble imports)
    : l = license ∨ l = pragma ∨ (∃ i ∈ imports, l = i.line) ∨ l = [] := by
  unfold preamble importLines at h
  rw [List.mem_append] at h
  cases h with
  | inl h =>
    simp only [List.mem_cons, List.not_mem_nil, or_false] at h
    rcases h with h | h | h
    . exact .inl h
    . exact .inr (.inl h)
    . exact .inr (.inr (.inr h))
  | inr h =>
    split at h
    . cases h
    . rw [List.mem_append, List.mem_map, List.mem_singleton] at h
      rcases h with ⟨i, hi, rfl⟩ | h
      . exact .inr (.inr (.inl ⟨i, hi, rfl⟩))
      . exact .inr (.inr (.inr h))

section Preamble

variable {imports : List Import} (himports : ∀ i ∈ imports, i.IsPlain)

include himports

theorem isLine_of_mem_preamble {l : Text} (h : l ∈ preamble imports) : IsLine l := by
  rcases mem_preamble h with rfl | rfl | ⟨i, hi, rfl⟩ | rfl
  . unfold license
    rw [String.toList_ofList]
    decide
  . unfold pragma
    rw [String.toList_ofList]
    decide
  . exact (himports i hi).isLine_line
  . decide

theorem settles_preamble : brackets.settles [] (Text.unlines (preamble imports)) = true := by
  apply settles_unlines
  intro l hl
  rcases mem_preamble hl with rfl | rfl | ⟨i, hi, rfl⟩ | rfl
  . unfold license
    rw [String.toList_ofList]
    decide
  . unfold pragma
    rw [String.toList_ofList]
    decide
  . exact (himports i hi).settles_line
  . decide

end Preamble

theorem not_opensContract_preamble {imports : List Import} {l : Text} (h : l ∈ preamble imports)
    : opensContract l = false := by
  rcases mem_preamble h with rfl | rfl | ⟨i, hi, rfl⟩ | rfl
  . unfold license opensContract
    rw [String.toList_ofList, String.toList_ofList]
    decide
  . unfold pragma opensContract
    rw [String.toList_ofList, String.toList_ofList]
    decide
  . apply i.not_opensContract_line
  . rfl

section Blocks

variable {blocks : List (List Text)} (hblocks : ∀ b ∈ blocks, IsMember b)

include hblocks

theorem isLine_of_mem_spaced {l : Text} (h : l ∈ Text.spaced blocks) : IsLine l := by
  rcases Text.mem_spaced h with rfl | ⟨b, hb, hl⟩
  . decide
  . exact (hblocks b hb).isLine l hl

theorem eq_nil_or_space_of_mem_spaced {l : Text} (h : l ∈ Text.spaced blocks)
    : l = [] ∨ ∃ t, l = ' ' :: t := by
  rcases Text.mem_spaced h with rfl | ⟨b, hb, hl⟩
  . exact .inl rfl
  . have hspace := (hblocks b hb).indented l hl
    cases l with
    | nil => exact .inl rfl
    | cons c t =>
      unfold isIndented at hspace
      rw [decide_eq_true_eq] at hspace
      subst hspace
      exact .inr ⟨t, rfl⟩

theorem not_opensContract_spaced {l : Text} (h : l ∈ Text.spaced blocks)
    : opensContract l = false := by
  unfold opensContract
  rw [String.toList_ofList]
  rcases eq_nil_or_space_of_mem_spaced hblocks h with rfl | ⟨t, rfl⟩
  . rfl
  . rfl

theorem settles_spaced : brackets.settles [] (Text.unlines (Text.spaced blocks)) = true := by
  rw [← Text.join_map_unlines]
  apply settles_join
  . decide
  . intro t ht
    rcases List.mem_map.1 ht with ⟨b, hb, rfl⟩
    exact (hblocks b hb).settles

end Blocks

structure IsComposedOf (f : SourceFile) (blocks : List (List Text)) : Prop where
  members_eq : f.members = blocks.map Text.unlines
  imports : ∀ i ∈ f.imports, i.IsPlain
  name : IsPlain f.name
  bases : ∀ b ∈ f.bases, IsPlain b
  blocks : ∀ b ∈ blocks, IsMember b

def linesWith (f : SourceFile) (blocks : List (List Text)) : List Text :=
  preamble f.imports ++ [heading f.name f.bases] ++ Text.spaced blocks ++ [['\x7d']]

namespace IsComposedOf

variable {f : SourceFile} {blocks : List (List Text)} (h : f.IsComposedOf blocks)

include h

theorem text_eq_unlines : f.text = Text.unlines (f.linesWith blocks) := by
  unfold text linesWith
  rw [h.members_eq, Text.join_map_unlines]
  rw [String.toList_ofList]
  simp only [Text.unlines_append]

theorem isLine {l : Text} (hl : l ∈ f.linesWith blocks) : IsLine l := by
  unfold linesWith at hl
  simp only [List.mem_append, List.mem_singleton] at hl
  rcases hl with ((hl | rfl) | hl) | rfl
  . apply isLine_of_mem_preamble h.imports hl
  . rw [heading_eq_stem]
    apply IsLine.insert (s := []) (by decide) (isPlain_stem h.name h.bases).isQuotable
  . apply isLine_of_mem_spaced h.blocks hl
  . decide

theorem lines_text : f.text.lines = f.linesWith blocks ++ [[]] := by
  rw [h.text_eq_unlines]
  apply Text.lines_unlines
  intro l hl
  exact (h.isLine hl).newline

theorem filter_opensContract_lines
    : f.text.lines.filter opensContract = [heading f.name f.bases] := by
  have hpreamble : (preamble f.imports).filter opensContract = [] := by
    rw [List.filter_eq_nil_iff]
    intro l hl
    simp [not_opensContract_preamble hl]
  have hspaced : (Text.spaced blocks).filter opensContract = [] := by
    rw [List.filter_eq_nil_iff]
    intro l hl
    simp [not_opensContract_spaced h.blocks hl]
  rw [h.lines_text]
  unfold linesWith
  simp only [List.filter_append]
  rw [hpreamble, hspaced]
  rw [List.filter_cons_of_pos (opensContract_heading _ _)]
  rfl

theorem text_eq_frame
    : f.text = Text.unlines (preamble f.imports) ++ (stem f.name f.bases ++ ['\x7b', '\n'] ++
        (Text.unlines (Text.spaced blocks) ++ ['\x7d', '\n'])) := by
  rw [h.text_eq_unlines]
  unfold linesWith
  rw [heading_eq_stem]
  simp

theorem settles_text : brackets.settles [] f.text = true := by
  rw [h.text_eq_frame]
  rw [Brackets.settles_nil_append (settles_preamble h.imports)]
  rw [List.append_assoc, (isPlain_stem h.name h.bases).settles_append]
  -- The brace behind the stem is due until the body has settled all of its own brackets.
  change brackets.settles ['\x7d'] (Text.unlines (Text.spaced blocks) ++ _) = true
  rw [Brackets.settles_nil_append (settles_spaced h.blocks)]
  decide

theorem frames
    : Frames (preamble f.imports) (stem f.name f.bases) (Text.unlines (Text.spaced blocks))
        f.text := by
  constructor
  . apply h.text_eq_frame
  . intro l hl
    rcases mem_preamble hl with hl | hl | ⟨i, hi, hl⟩ | hl
    . exact .inl hl
    . exact .inr (.inl hl)
    . exact .inr (.inr (.inl ⟨i, h.imports i hi, hl⟩))
    . exact .inr (.inr (.inr hl))
  . apply Brackets.nested_of_settles
    apply settles_preamble h.imports
  . exact (isPlain_stem h.name h.bases).filter_isBracket
  . apply Brackets.nested_of_settles
    apply settles_spaced h.blocks
  . rw [← heading_eq_stem]
    apply h.filter_opensContract_lines

theorem wellFormed : WellFormed f.text := by
  constructor
  . apply Brackets.nested_of_settles
    apply h.settles_text
  . intro l hl
    rw [h.lines_text, List.mem_append] at hl
    cases hl with
    | inl hl => exact (h.isLine hl).quotes
    | inr hl =>
      rw [List.mem_singleton] at hl
      subst hl
      rfl
  . exact ⟨_, _, _, h.frames⟩

end IsComposedOf

end SourceFile

end Solidity

end Scaffold
