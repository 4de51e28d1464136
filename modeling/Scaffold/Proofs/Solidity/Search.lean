import Scaffold.Proofs.Solidity.Source

/-!
This module contains what is known of the lines of a source file that are searched for: those that
meet a condition are found in the members of the contract, block by block, and what stands between
an opening and a closing line is found if there is one opening line only.
-/

namespace Scaffold

namespace Text

/--
For every line `opening`, the lines behind it up to the next line `closing`.
-/
def bodies (opening closing : Text) : List Text → List (List Text)
  | [] => []
  | l :: ls =>
    if l = opening then ls.takeWhile (· ≠ closing) :: bodies opening closing ls
    else bodies opening closing ls

section Bodies

variable {opening closing : Text} {ls ms : List Text}

theorem bodies_append (h : opening ∉ ls)
    : bodies opening closing (ls ++ ms) = bodies opening closing ms := by
  induction ls with
  | nil => rfl
  | cons l ls ih =>
    rw [List.mem_cons, not_or] at h
    rw [List.cons_append, bodies, if_neg (Ne.symm h.1), ih h.2]

theorem bodies_eq_nil (h : opening ∉ ls) : bodies opening closing ls = [] := by
  have happend : bodies opening closing (ls ++ []) = bodies opening closing [] := bodies_append h
  rw [List.append_nil] at happend
  exact happend

theorem bodies_eq_singleton {body : List Text} (hpart : opening :: (body ++ [closing]) <:+: ls)
    (hone : ls.filter (· = opening) = [opening]) (hbody : closing ∉ body)
    : bodies opening closing ls = [body] := by
  rcases hpart with ⟨before, after, rfl⟩
  have hcount : before.count opening + (1 + (body ++ closing :: after).count opening) = 1 := by
    have hlength := congrArg (List.count opening) hone
    rw [List.count_filter (by simp)] at hlength
    simp only [List.append_assoc, List.cons_append, List.count_append, List.count_cons_self,
      List.nil_append, List.count_nil] at hlength ⊢
    omega
  have hbefore : opening ∉ before := by
    rw [← List.count_eq_zero]
    omega
  have hafter : opening ∉ body ++ closing :: after := by
    rw [← List.count_eq_zero]
    omega
  have htake : (body ++ closing :: after).takeWhile (· ≠ closing) = body := by
    rw [List.takeWhile_append_of_pos]
    . simp
    . intro l hl
      rw [decide_eq_true_eq]
      intro heq
      subst heq
      exact hbody hl
  rw [List.append_assoc, bodies_append hbefore]
  rw [List.cons_append, List.append_assoc, List.singleton_append]
  unfold bodies
  rw [if_pos rfl, htake, bodies_eq_nil hafter]

end Bodies

theorem filter_filter_of_imp {p q : Text → Bool} (h : ∀ l, p l = true → q l = true)
    (ls : List Text)
    : (ls.filter q).filter p = ls.filter p := by
  rw [List.filter_filter]
  apply List.filter_congr
  intro l hl
  cases hp : p l with
  | false => rfl
  | true => rw [h l hp, Bool.and_self]

theorem filter_spaced {p : Text → Bool} (hp : p [] = false) (blocks : List (List Text))
    : (spaced blocks).filter p = blocks.flatMap (List.filter p) := by
  cases blocks with
  | nil => rfl
  | cons b bs =>
    rw [spaced_cons, List.filter_append, List.filter_flatMap, List.flatMap_cons]
    congr 1
    apply List.flatMap_congr
    intro c hc
    rw [List.filter_cons_of_neg]
    simp [hp]

theorem infix_spaced {b : List Text} {blocks : List (List Text)} (hb : b ∈ blocks)
    : b <:+: spaced blocks := by
  cases blocks with
  | nil => cases hb
  | cons c cs =>
    rw [spaced_cons]
    cases hb with
    | head => exact (List.prefix_append b _).isInfix
    | tail _ hb =>
      have hpart : [] :: b <:+: cs.flatMap ([] :: ·) := by
        rw [List.flatMap_def]
        exact List.infix_of_mem_flatten (List.mem_map.2 ⟨b, hb, rfl⟩)
      have hsuffix : cs.flatMap ([] :: ·) <:+: c ++ cs.flatMap ([] :: ·) :=
        (List.suffix_append c _).isInfix
      exact ((List.suffix_cons [] b).isInfix.trans hpart).trans hsuffix

end Text

namespace Solidity

namespace SourceFile

variable {f : SourceFile} {blocks : List (List Text)} {p : Text → Bool}

theorem IsComposedOf.filter_lines (h : f.IsComposedOf blocks)
    (hpreamble : ∀ l ∈ preamble f.imports, p l = false) (hheading : p (heading f.name f.bases) = false)
    (hclosing : p ['\x7d'] = false) (hempty : p [] = false)
    : f.text.lines.filter p = blocks.flatMap (List.filter p) := by
  have hfilter : (preamble f.imports).filter p = [] := by
    rw [List.filter_eq_nil_iff]
    intro l hl
    simp [hpreamble l hl]
  rw [h.lines_text]
  unfold linesWith
  rw [List.filter_append, List.filter_append, List.filter_append, List.filter_append]
  rw [hfilter, Text.filter_spaced hempty]
  simp [hheading, hclosing, hempty]

theorem IsComposedOf.infix_lines (h : f.IsComposedOf blocks) {b : List Text} (hb : b ∈ blocks)
    : b <:+: f.text.lines := by
  rw [h.lines_text]
  unfold linesWith
  rw [List.append_assoc]
  exact (Text.infix_spaced hb).trans (List.infix_append _ _ _)

end SourceFile

end Solidity

end Scaffold
