import Scaffold.Proofs.Solidity.Line
import Scaffold.Solidity.Layout

/-!
This module contains what is asked of the members of a contract, and the proof that structs and
methods meet it. Members are judged line by line, except for their brackets, which may be closed on
another line of the same member.
-/

namespace Scaffold

namespace Solidity

def isIndented : Text → Bool
  | [] => true
  | c :: _ => c = ' '

/--
Whether lines are those of a member of a contract. Every line stands behind a space, so that none of
them opens a contract.
-/
structure IsMember (b : List Text) : Prop where
  isLine : ∀ l ∈ b, IsLine l
  indented : ∀ l ∈ b, isIndented l = true
  settles : brackets.settles [] (Text.unlines b) = true

section Indent

variable {depth : Nat} {l : Text}

theorem isPlain_replicate_space (n : Nat) : IsPlain (List.replicate n ' ') := by
  intro c hc
  rw [List.eq_of_mem_replicate hc]
  decide

theorem isLine_indent (h : IsLine l) : IsLine (indent depth l) := by
  unfold indent
  split
  . decide
  . apply IsLine.insert (s := []) h (isPlain_replicate_space depth).isQuotable

theorem isIndented_indent (hdepth : 0 < depth) : isIndented (indent depth l) = true := by
  cases depth with
  | zero => omega
  | succ n =>
    unfold indent
    split
    . rfl
    . rfl

theorem filter_unlines_indent (ls : List Text)
    : (Text.unlines (ls.map (indent depth))).filter brackets.isBracket =
        (Text.unlines ls).filter brackets.isBracket := by
  induction ls with
  | nil => rfl
  | cons l ls ih =>
    have hl : (indent depth l).filter brackets.isBracket = l.filter brackets.isBracket := by
      unfold indent
      split
      . next h =>
        rw [List.isEmpty_iff] at h
        rw [h]
      . rw [List.filter_append, (isPlain_replicate_space depth).filter_isBracket]
        rfl
    rw [List.map_cons, Text.unlines_cons, Text.unlines_cons]
    rw [List.filter_append, List.filter_append, List.filter_cons, List.filter_cons]
    rw [ih, hl]

end Indent

/--
A method is a member if its lines are lines and its brackets are properly nested, which does not
depend on how deep the lines are indented.
-/
theorem isMember_method {heading body : List Text} (hheading : ∀ l ∈ heading, IsLine l)
    (hbody : ∀ l ∈ body, IsLine l)
    (hsettles : brackets.settles [] (Text.unlines (heading ++ body ++ [['\x7d']])) = true)
    : IsMember (method heading body) := by
  have hmem : ∀ l ∈ method heading body, ∃ depth l', 0 < depth ∧ IsLine l' ∧ l = indent depth l' := by
    intro l hl
    unfold method at hl
    simp only [List.mem_append, List.mem_map, List.mem_singleton] at hl
    rcases hl with (⟨l', hl', rfl⟩ | ⟨l', hl', rfl⟩) | rfl
    . exact ⟨2, l', by omega, hheading l' hl', rfl⟩
    . exact ⟨4, l', by omega, hbody l' hl', rfl⟩
    . exact ⟨2, ['\x7d'], by omega, by decide, rfl⟩
  constructor
  . intro l hl
    rcases hmem l hl with ⟨depth, l', hdepth, hl', rfl⟩
    apply isLine_indent hl'
  . intro l hl
    rcases hmem l hl with ⟨depth, l', hdepth, hl', rfl⟩
    apply isIndented_indent hdepth
  . have hbrace : [indent 2 "\x7d"] = [['\x7d']].map (indent 2) := by
      rw [String.toList_ofList]
      rfl
    have hfilter : (Text.unlines (method heading body)).filter brackets.isBracket =
        (Text.unlines (heading ++ body ++ [['\x7d']])).filter brackets.isBracket := by
      unfold method
      rw [hbrace]
      simp only [Text.unlines_append, List.filter_append, filter_unlines_indent]
    rw [← Brackets.settles_filter_isBracket, hfilter, Brackets.settles_filter_isBracket]
    exact hsettles

theorem isLine_fieldLine {f : Field} (h : f.check = .ok ()) : IsLine (fieldLine f) := by
  unfold fieldLine
  rw [String.toList_ofList, String.toList_ofList, List.append_assoc]
  apply IsLine.insert
  . decide
  . apply isQuotable_declaration h

theorem settles_fieldLine {f : Field} (h : f.check = .ok ())
    : brackets.settles [] (fieldLine f) = true := by
  unfold fieldLine
  rw [String.toList_ofList, String.toList_ofList]
  apply Brackets.settles_append_settles
  . apply Brackets.settles_append_settles
    . decide
    . apply settles_declaration h
  . decide

theorem not_mem_fieldLine {f : Field} (h : f.check = .ok ()) {c : Char}
    (hc : continuesType c = false) (hsemi : c ≠ ';')
    : c ∉ fieldLine f := by
  have hspace : c ≠ ' ' := fun heq => ne_of_continuesType (by decide) hc heq.symm
  unfold fieldLine
  repeat rw [String.toList_ofList]
  intro hmem
  simp only [List.mem_append, List.mem_cons, List.not_mem_nil, or_false, hspace, hsemi,
    false_or] at hmem
  exact ne_of_continuesType (Field.continuesType_of_mem_declaration h c hmem) hc rfl

theorem fieldLine_ne_brace (f : Field) : fieldLine f ≠ "  \x7d".toList := by
  unfold fieldLine
  repeat rw [String.toList_ofList]
  simp

theorem isMember_structLines {name : Text} {fs : FieldList} (hname : IsPlain name)
    (hfs : ∀ f ∈ fs, f.check = .ok ()) : IsMember (structLines name fs) := by
  unfold structLines
  repeat rw [String.toList_ofList]
  constructor
  . intro l hl
    simp only [List.mem_append, List.mem_map, List.mem_singleton] at hl
    rcases hl with (rfl | ⟨f, hf, rfl⟩) | rfl
    . rw [List.append_assoc]
      apply IsLine.insert
      . decide
      . apply hname.isQuotable
    . apply isLine_fieldLine (hfs f hf)
    . decide
  . intro l hl
    simp only [List.mem_append, List.mem_map, List.mem_singleton] at hl
    rcases hl with (rfl | ⟨f, hf, rfl⟩) | rfl
    . rfl
    . unfold fieldLine
      rw [String.toList_ofList]
      rfl
    . rfl
  . have hfields : brackets.settles [] (Text.unlines (fs.map fieldLine)) = true := by
      apply settles_unlines
      intro l hl
      rcases List.mem_map.1 hl with ⟨f, hf, rfl⟩
      apply settles_fieldLine (hfs f hf)
    rw [Text.unlines_append, Text.unlines_append, Text.unlines_cons, Text.unlines_nil]
    simp only [List.append_assoc]
    rw [IsPlain.settles_append (by decide)]
    rw [hname.settles_append]
    -- Every field settles its own brackets, so the brace is still due behind the last one.
    change brackets.settles ['\x7d'] (Text.unlines (fs.map fieldLine) ++ _) = true
    rw [Brackets.settles_nil_append hfields]
    decide

end Solidity

end Scaffold
