import Scaffold.Field.BracketStack
import Scaffold.Proofs.Field.Brackets
import Mathlib.Data.List.Forall2

/-!
This module contains the proof that the check of brackets decides the grammar of nested brackets,
and that it can be made in one pass with a stack. Such a pass goes on exactly as long as the text can
still be completed.
-/

namespace Scaffold

namespace Brackets

inductive IsNest : Text → Prop where
  | empty : IsNest []
  | round {s t : Text} (hs : IsNest s) (ht : IsNest t) : IsNest ('(' :: s ++ ')' :: t)
  | square {s t : Text} (hs : IsNest s) (ht : IsNest t) : IsNest ('[' :: s ++ ']' :: t)

theorem nested_ofTypes_iff_isNest {s : Text} : Nested .ofTypes s ↔ IsNest s := by
  constructor
  . intro h
    induction h with
    | empty => exact .empty
    | pair hmem _ _ ihs iht =>
      simp only [ofTypes, List.mem_cons, Prod.mk.injEq, List.not_mem_nil, or_false] at hmem
      rcases hmem with ⟨rfl, rfl⟩ | ⟨rfl, rfl⟩
      . exact .round ihs iht
      . exact .square ihs iht
  . intro h
    induction h with
    | empty => exact .empty
    | round _ _ ihs iht => exact .pair (by simp [ofTypes]) ihs iht
    | square _ _ ihs iht => exact .pair (by simp [ofTypes]) ihs iht

theorem isBracket_ofTypes (c : Char)
    : isBracket .ofTypes c = decide (c ∈ ['(', ')', '[', ']']) := by
  rw [Bool.eq_iff_iff, decide_eq_true_iff]
  constructor
  . intro h
    by_contra hc
    simp only [List.mem_cons, List.not_mem_nil, or_false, not_or] at hc
    rw [isBracket_eq_false (by simp [ofTypes, hc])] at h
    cases h
  . intro h
    simp only [List.mem_cons, List.not_mem_nil, or_false] at h
    rcases h with rfl | rfl | rfl | rfl <;> decide

variable {bs : Brackets} {stack due : List Char} {s t : Text}

/--
Whether the brackets in `due` are those that close the ones on the stack, in the same order.
-/
def Awaits (bs : Brackets) (stack due : List Char) : Prop :=
  List.Forall₂ (fun o d => bs.closer? o = some d) stack due

theorem passAll?_nil (stack : List Char) : bs.passAll? stack [] = some stack := rfl

theorem passAll?_cons (stack : List Char) (c : Char) (s : Text)
    : bs.passAll? stack (c :: s) = (bs.pass? stack c).bind (bs.passAll? · s) := rfl

theorem passAll?_append (stack : List Char) (s t : Text)
    : bs.passAll? stack (s ++ t) = (bs.passAll? stack s).bind (bs.passAll? · t) := by
  unfold passAll?
  rw [List.foldlM_append]
  rfl

theorem settles_iff_passAll? (h : bs.Awaits stack due)
    : bs.settles due s = true ↔ bs.passAll? stack s = some [] := by
  induction s generalizing stack due with
  | nil =>
    rw [passAll?_nil]
    cases h with
    | nil => simp [settles]
    | cons hd hrest => simp [settles]
  | cons c s ih =>
    rw [passAll?_cons]
    unfold settles pass?
    cases hopen : bs.closer? c with
    | some d =>
      apply ih
      exact .cons hopen h
    | none =>
      dsimp only
      split
      . cases h with
        | nil => simp
        | @cons o d stack due ho hrest =>
          by_cases hc : d = c
          . simp [hc, ho, ih hrest]
          . simp [hc, ho]
      . apply ih h

theorem exists_awaits_of_pass? {c : Char} {stack' : List Char} (h : bs.Awaits stack due)
    (hpass : bs.pass? stack c = some stack')
    : ∃ due', bs.Awaits stack' due' := by
  unfold pass? at hpass
  split at hpass
  . next hopen =>
    rcases Option.isSome_iff_exists.1 hopen with ⟨d, hd⟩
    cases hpass
    exact ⟨d :: due, .cons hd h⟩
  . split at hpass
    . cases h with
      | nil => cases hpass
      | cons ho hrest =>
        dsimp only at hpass
        split at hpass
        . cases hpass
          exact ⟨_, hrest⟩
        . cases hpass
    . cases hpass
      exact ⟨due, h⟩

theorem exists_awaits_of_passAll? {stack' : List Char} (h : bs.Awaits stack due)
    (hpass : bs.passAll? stack s = some stack')
    : ∃ due', bs.Awaits stack' due' := by
  induction s generalizing stack due with
  | nil =>
    cases hpass
    exact ⟨due, h⟩
  | cons c s ih =>
    rw [passAll?_cons, Option.bind_eq_some_iff] at hpass
    rcases hpass with ⟨stack₁, hfirst, hrest⟩
    rcases exists_awaits_of_pass? h hfirst with ⟨due₁, h₁⟩
    apply ih h₁ hrest

theorem settles_self (hbs : bs.IsDistinct) (h : bs.Awaits stack due)
    : bs.settles due due = true := by
  induction h with
  | nil => rfl
  | @cons o d stack due ho _ ih =>
    have hmem := mem_of_closer? ho
    have hcloser : bs.isCloser d = true := by
      unfold isCloser
      rw [List.any_eq_true]
      exact ⟨(o, d), hmem, by simp⟩
    unfold settles
    simp [(hbs _ hmem).2, hcloser, ih]

/--
A pass over a text stops exactly if nothing that could come behind the text completes it.
-/
theorem passAll?_eq_none_iff (hbs : bs.IsDistinct)
    : bs.passAll? [] s = none ↔ ∀ t, bs.settles [] (s ++ t) = false := by
  constructor
  . intro h t
    rw [← Bool.not_eq_true, settles_iff_passAll? .nil, passAll?_append, h]
    simp
  . intro h
    rw [Option.eq_none_iff_forall_ne_some]
    intro stack hstack
    rcases exists_awaits_of_passAll? .nil hstack with ⟨due, hdue⟩
    have hsettles : bs.settles [] (s ++ due) = true := by
      rw [settles_iff_passAll? .nil, passAll?_append, hstack]
      exact (settles_iff_passAll? hdue).1 (settles_self hbs hdue)
    rw [h due] at hsettles
    cases hsettles

end Brackets

open Brackets in
/--
The check of brackets decides the grammar of nested round and square brackets. It gives the same as
a pass with a stack, which ends with no bracket open, and which stops as soon as no text behind what
it has seen can be nested.
-/
theorem Text.isBalanced_iff_isNest (s : Text)
    : (s.isBalanced = true ↔ IsNest (s.filter (· ∈ ['(', ')', '[', ']']))) ∧
      (s.isBalanced = true ↔ passAll? .ofTypes [] s = some []) ∧
      (passAll? .ofTypes [] s = none ↔ ∀ t : Text, (s ++ t).isBalanced = false) := by
  refine ⟨?_, ?_, ?_⟩
  . rw [isBalanced_iff_nested, nested_ofTypes_iff_isNest]
    simp only [funext isBracket_ofTypes]
  . apply settles_iff_passAll? .nil
  . apply passAll?_eq_none_iff
    unfold IsDistinct
    decide

example : Text.isBalanced ['(', '[', ')', ']'] = false := by rfl

end Scaffold
