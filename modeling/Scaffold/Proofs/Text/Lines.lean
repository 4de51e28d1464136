import Scaffold.Proofs.Text.Words

/-!
This module contains texts that are made of lines: the lines can be found again in the text, and
blocks of lines can be put behind each other line by line. A mark that stands in no part in front of
it tells the parts of such a text apart.
-/

namespace Scaffold

/--
What stands in front of the first mark and behind it is determined by the whole, even if it is not
known which of two marks comes first.
-/
theorem eq_of_append_cons_eq {α : Type} {l m r s : List α} {x y : α} (hx : x ∉ m) (hy : y ∉ l)
    (h : l ++ x :: r = m ++ y :: s)
    : l = m ∧ x = y ∧ r = s := by
  induction l generalizing m with
  | nil =>
    cases m with
    | nil =>
      cases h
      exact ⟨rfl, rfl, rfl⟩
    | cons b m =>
      cases h
      exact absurd List.mem_cons_self hx
  | cons a l ih =>
    cases m with
    | nil =>
      cases h
      exact absurd List.mem_cons_self hy
    | cons b m =>
      rw [List.mem_cons, not_or] at hx hy
      rw [List.cons_append, List.cons_append, List.cons.injEq] at h
      rcases h with ⟨rfl, h⟩
      rcases ih hx.2 hy.2 h with ⟨rfl, hrest⟩
      exact ⟨rfl, hrest⟩

namespace Text

def lines (s : Text) : List Text :=
  s.splitWhen (· = '\n')

theorem lines_unlines {ls : List Text} (h : ∀ l ∈ ls, '\n' ∉ l)
    : lines (unlines ls) = ls ++ [[]] := by
  unfold lines
  induction ls with
  | nil => rfl
  | cons l ls ih =>
    have hl : splitWhen (· = '\n') l = [l] := by
      apply splitWhen_eq_singleton
      intro c hc
      rw [decide_eq_false_iff_not]
      intro hn
      subst hn
      apply h l (by simp) hc
    -- The line feed behind `l` is the first one.
    rw [unlines_cons]
    rw [splitWhen_append_cons (by simp)]
    rw [hl, ih fun l' hl' => h l' (List.mem_cons_of_mem _ hl')]
    rfl

theorem join_lines (s : Text) : join ['\n'] s.lines = s := by
  unfold lines
  induction s with
  | nil => rfl
  | cons c s ih =>
    cases hs : splitWhen (· = '\n') s with
    | nil => exact absurd hs (splitWhen_ne_nil _ s)
    | cons t ts =>
      rw [hs] at ih
      rw [splitWhen, hs]
      split
      . next hc =>
        rw [decide_eq_true_eq] at hc
        rw [join_cons_cons, ih, hc]
        rfl
      . rw [consHead, join_cons, List.cons_append, ← join_cons, ih]

def spaced (blocks : List (List Text)) : List Text :=
  List.intercalate [[]] blocks

@[simp]
theorem spaced_nil : spaced [] = [] := rfl

theorem spaced_cons (b : List Text) (bs : List (List Text))
    : spaced (b :: bs) = b ++ bs.flatMap ([] :: ·) := by
  unfold spaced
  induction bs generalizing b with
  | nil => simp
  | cons c cs ih =>
    have hcons : List.intercalate [[]] (b :: c :: cs) =
        b ++ [[]] ++ List.intercalate [[]] (c :: cs) := by
      simp [List.intercalate]
    rw [hcons, ih, List.flatMap_cons]
    simp

theorem join_map_unlines (blocks : List (List Text))
    : join ['\n'] (blocks.map unlines) = unlines (spaced blocks) := by
  cases blocks with
  | nil => simp
  | cons b bs =>
    rw [List.map_cons, join_cons, spaced_cons, unlines_append]
    congr 1
    induction bs with
    | nil => rfl
    | cons c cs ih =>
      rw [List.map_cons, List.flatMap_cons, List.flatMap_cons, unlines_append, ih]
      rfl

theorem mem_spaced {blocks : List (List Text)} {l : Text} (h : l ∈ spaced blocks)
    : l = [] ∨ ∃ b ∈ blocks, l ∈ b := by
  cases blocks with
  | nil => cases h
  | cons b bs =>
    rw [spaced_cons, List.mem_append, List.mem_flatMap] at h
    rcases h with h | ⟨c, hc, h⟩
    . exact .inr ⟨b, List.mem_cons_self, h⟩
    . cases h with
      | head => exact .inl rfl
      | tail _ h => exact .inr ⟨c, List.mem_cons_of_mem _ hc, h⟩

end Text

end Scaffold
