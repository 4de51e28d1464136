import Scaffold.Field.Brackets

/-!
This module contains the theory of nested brackets: the grammar of properly nested words, how the
check of brackets runs over a text that is put together from parts, and the proof that a text which
passes the check is a word of the grammar once everything but its brackets is removed.
-/

namespace Scaffold

namespace Brackets

def isBracket (bs : Brackets) (c : Char) : Bool :=
  (bs.closer? c).isSome || bs.isCloser c

/--
The properly nested words: the empty one, and those that start with a bracket which is closed later
such that the words inside the pair and behind it are properly nested.
-/
inductive Nested (bs : Brackets) : Text → Prop where
  | empty : Nested bs []
  | pair {o c : Char} {s t : Text} (hmem : (o, c) ∈ bs) (hs : Nested bs s) (ht : Nested bs t)
      : Nested bs (o :: s ++ c :: t)

variable {bs : Brackets}

theorem mem_of_closer? {o c : Char} (h : bs.closer? o = some c) : (o, c) ∈ bs := by
  unfold closer? at h
  induction bs with
  | nil => simp at h
  | cons b bs ih =>
    rcases b with ⟨p, q⟩
    rw [List.lookup_cons] at h
    split at h
    . next hp =>
      have heq : o = p := by simpa using hp
      subst heq
      simp_all
    . apply List.mem_cons_of_mem _ (ih h)

theorem isBracket_eq_false {c : Char} (h : ∀ b ∈ bs, c ≠ b.1 ∧ c ≠ b.2)
    : bs.isBracket c = false := by
  cases hc : bs.isBracket c with
  | false => rfl
  | true =>
    unfold isBracket isCloser at hc
    rw [Bool.or_eq_true, Option.isSome_iff_exists, List.any_eq_true] at hc
    rcases hc with ⟨d, hd⟩ | ⟨b, hb, hcb⟩
    . exact absurd rfl (h (c, d) (mem_of_closer? hd)).1
    . rw [decide_eq_true_eq] at hcb
      exact absurd hcb.symm (h b hb).2

theorem settles_cons_of_not_isBracket {c : Char} (hc : bs.isBracket c = false) (due : List Char)
    (s : Text)
    : bs.settles due (c :: s) = bs.settles due s := by
  rw [isBracket, Bool.or_eq_false_iff] at hc
  rw [settles.eq_def]
  rw [Option.isSome_eq_false_iff, Option.isNone_iff_eq_none] at hc
  dsimp only
  rw [hc.1, hc.2]
  rfl

theorem settles_filter_isBracket (due : List Char) (s : Text)
    : bs.settles due (s.filter bs.isBracket) = bs.settles due s := by
  induction s generalizing due with
  | nil => rfl
  | cons c s ih =>
    rw [List.filter_cons]
    split
    . simp only [settles, ih]
    . next hc =>
      rw [settles_cons_of_not_isBracket (by simpa using hc)]
      apply ih due

theorem settles_append {own : List Char} {s : Text} (hs : bs.settles own s = true)
    (due : List Char) (t : Text)
    : bs.settles (own ++ due) (s ++ t) = bs.settles due t := by
  induction s generalizing own with
  | nil =>
    have heq : own = [] := by simpa [settles] using hs
    subst heq
    rfl
  | cons c s ih =>
    rw [List.cons_append]
    rw [settles.eq_def] at hs ⊢
    dsimp only at hs ⊢
    split at hs
    . next d hd => exact ih hs
    . split at hs
      . next hc =>
        cases own with
        | nil => simp at hs
        | cons d own =>
          simp only [Bool.and_eq_true, decide_eq_true_eq] at hs
          rw [if_pos hc]
          simp only [List.cons_append, hs.1, decide_true, Bool.true_and]
          apply ih hs.2
      . next hc =>
        rw [if_neg hc]
        apply ih hs

theorem settles_nil_append {s : Text} (hs : bs.settles [] s = true) (due : List Char) (t : Text)
    : bs.settles due (s ++ t) = bs.settles due t :=
  settles_append hs due t

theorem settles_append_settles {s t : Text} (hs : bs.settles [] s = true)
    (ht : bs.settles [] t = true)
    : bs.settles [] (s ++ t) = true := by
  rw [settles_nil_append hs]
  exact ht

theorem settles_of_forall_not_isBracket {s : Text} (h : ∀ c ∈ s, bs.isBracket c = false)
    : bs.settles [] s = true := by
  rw [← settles_filter_isBracket]
  rw [List.filter_eq_nil_iff.2 (by simpa using h)]
  rfl

theorem settles_flatten {ss : List Text} (h : ∀ s ∈ ss, bs.settles [] s = true)
    : bs.settles [] ss.flatten = true := by
  induction ss with
  | nil => rfl
  | cons s ss ih =>
    rw [List.flatten_cons]
    apply settles_append_settles
    . apply h s (by simp)
    . apply ih (fun t ht => h t (by simp [ht]))

theorem settles_congr {bs' : Brackets} {s : Text}
    (h : ∀ c ∈ s, bs.closer? c = bs'.closer? c ∧ bs.isCloser c = bs'.isCloser c) (due : List Char)
    : bs.settles due s = bs'.settles due s := by
  induction s generalizing due with
  | nil => rfl
  | cons c s ih =>
    have ih := ih (fun d hd => h d (by simp [hd]))
    rcases h c (by simp) with ⟨hopen, hclose⟩
    simp only [settles, hopen, hclose, ih]

/--
The words that close the brackets in `due`, each at its turn, and are properly nested otherwise.
-/
inductive Settled (bs : Brackets) : List Char → Text → Prop where
  | last {s : Text} (hs : Nested bs s) : Settled bs [] s
  | next {d : Char} {due : List Char} {s t : Text} (hs : Nested bs s) (ht : Settled bs due t)
      : Settled bs (d :: due) (s ++ d :: t)

theorem Settled.pair {o c : Char} {due : List Char} {s t : Text} (hmem : (o, c) ∈ bs)
    (hs : Nested bs s) (ht : Settled bs due t)
    : Settled bs due (o :: s ++ c :: t) := by
  cases ht with
  | last ht => exact .last (.pair hmem hs ht)
  | @next d due u v hu hv =>
    have : o :: s ++ c :: (u ++ d :: v) = (o :: s ++ c :: u) ++ d :: v := by simp
    rw [this]
    exact .next (.pair hmem hs hu) hv

theorem settled_of_settles {due : List Char} {s : Text} (h : bs.settles due s = true)
    : Settled bs due (s.filter bs.isBracket) := by
  induction s generalizing due with
  | nil =>
    have heq : due = [] := by simpa [settles] using h
    subst heq
    exact .last .empty
  | cons c s ih =>
    rw [settles.eq_def] at h
    dsimp only at h
    split at h
    . next d hd =>
      rw [List.filter_cons_of_pos (by simp [isBracket, hd])]
      have hrest := ih h
      generalize s.filter bs.isBracket = w at hrest ⊢
      -- The bracket that `c` opens is due first, so what settles it ends the pair.
      cases hrest with
      | next hs ht => exact .pair (mem_of_closer? hd) hs ht
    . next hopen =>
      split at h
      . next hc =>
        rw [List.filter_cons_of_pos (by simp [isBracket, hc])]
        cases due with
        | nil => simp at h
        | cons d due =>
          simp only [Bool.and_eq_true, decide_eq_true_eq] at h
          rcases h with ⟨rfl, h⟩
          exact .next .empty (ih h)
      . next hc =>
        rw [List.filter_cons_of_neg (by simp [isBracket, hopen, hc])]
        apply ih h

theorem nested_of_settles {s : Text} (h : bs.settles [] s = true)
    : Nested bs (s.filter bs.isBracket) := by
  have hs := settled_of_settles h
  generalize s.filter bs.isBracket = w at hs ⊢
  cases hs with
  | last hs => exact hs

/--
Whether every bracket closes one kind only, and none both opens and closes.
-/
def IsDistinct (bs : Brackets) : Prop :=
  ∀ b ∈ bs, bs.closer? b.1 = some b.2 ∧ bs.closer? b.2 = none

theorem settles_append_of_nested (hbs : bs.IsDistinct) {s : Text} (hs : Nested bs s)
    (due : List Char) (t : Text)
    : bs.settles due (s ++ t) = bs.settles due t := by
  induction hs generalizing due t with
  | empty => rfl
  | @pair o c s u hmem _ _ ihs ihu =>
    rcases hbs (o, c) hmem with ⟨hopen, hclose⟩
    have hcloser : bs.isCloser c = true := by
      unfold isCloser
      rw [List.any_eq_true]
      exact ⟨(o, c), hmem, by simp⟩
    rw [List.append_assoc, List.cons_append, List.cons_append]
    simp only [settles, hopen, ihs, hclose, hcloser, ihu]
    simp

theorem settles_iff_nested (hbs : bs.IsDistinct) {s : Text}
    : bs.settles [] s = true ↔ Nested bs (s.filter bs.isBracket) := by
  constructor
  . exact nested_of_settles
  . intro h
    have happend := settles_append_of_nested hbs h [] []
    rw [List.append_nil, settles_filter_isBracket] at happend
    rw [happend]
    rfl

end Brackets

namespace Text

theorem isBalanced_iff_nested {s : Text}
    : s.isBalanced = true ↔
        Brackets.Nested .ofTypes (s.filter (Brackets.isBracket .ofTypes)) := by
  apply Brackets.settles_iff_nested
  unfold Brackets.IsDistinct
  decide

end Text

end Scaffold
