import Mathlib.Data.List.TakeWhile
import Scaffold.Text.Space

/-!
This module contains the theory of cutting a text up: pieces between separators, the words of a
text, and texts that trimming leaves alone. Almost everything about words follows from one equation,
`words_append_space`, which says that a space keeps the words on its two sides apart.
-/

namespace Scaffold

theorem isSpace_eq_false_of_lt {c : Char} (hlow : 0x20 < c.toNat) (hhigh : c.toNat < 0x80)
    : isSpace c = false := by
  unfold isSpace CodePointSet.contains CodePointSet.covers
  have h1 : ¬c.toNat < 0x9 := by omega
  have h2 : ¬c.toNat < 0xe := by omega
  have h3 : ¬c.toNat < 0x20 := by omega
  have h4 : ¬c.toNat < 0x21 := by omega
  have h5 : c.toNat < 0x85 := by omega
  simp [whiteSpace, CodePointSet.covers.go, h1, h2, h3, h4, h5]

namespace Text

theorem splitWhen_append_cons {p : Char → Bool} {c : Char} (hc : p c = true) (s t : Text)
    : splitWhen p (s ++ c :: t) = splitWhen p s ++ splitWhen p t := by
  induction s with
  | nil => simp [splitWhen, hc]
  | cons d s ih =>
    simp only [List.cons_append, splitWhen, ih]
    split
    . rfl
    . cases h : splitWhen p s with
      | nil => exact absurd h (splitWhen_ne_nil p s)
      | cons u us => rfl

theorem splitWhen_eq_singleton {p : Char → Bool} {s : Text} (h : ∀ c ∈ s, p c = false)
    : splitWhen p s = [s] := by
  induction s with
  | nil => rfl
  | cons c s ih =>
    rw [splitWhen]
    rw [h c (by simp)]
    rw [ih (fun d hd => h d (by simp [hd]))]
    rfl

theorem flatten_consHead (c : Char) (ts : List Text)
    : (consHead c ts).flatten = c :: ts.flatten := by
  cases ts <;> rfl

theorem flatten_splitWhen (p : Char → Bool) (s : Text)
    : (splitWhen p s).flatten = s.filter (fun c => !p c) := by
  induction s with
  | nil => rfl
  | cons c s ih =>
    rw [splitWhen]
    split
    . next hc => simp [hc, ih]
    . next hc =>
      rw [flatten_consHead, ih]
      simp [hc]

theorem not_of_mem_splitWhen {p : Char → Bool} {s t : Text} (ht : t ∈ splitWhen p s)
    : ∀ c ∈ t, p c = false := by
  intro c hc
  have hflat : c ∈ (splitWhen p s).flatten := List.mem_flatten.2 ⟨t, ht, hc⟩
  rw [flatten_splitWhen] at hflat
  simpa using (List.mem_filter.1 hflat).2

@[simp]
theorem words_nil : words [] = [] := rfl

theorem words_append_space {c : Char} (hc : isSpace c = true) (s t : Text)
    : words (s ++ c :: t) = words s ++ words t := by
  unfold words
  rw [splitWhen_append_cons hc]
  rw [List.filter_append]

theorem words_cons_space {c : Char} (hc : isSpace c = true) (s : Text)
    : words (c :: s) = words s := by
  have := words_append_space hc [] s
  simpa using this

def IsWord (w : Text) : Prop :=
  w ≠ [] ∧ ∀ c ∈ w, isSpace c = false

theorem isWord_of_mem_words {w s : Text} (hw : w ∈ words s) : IsWord w := by
  rcases List.mem_filter.1 hw with ⟨hmem, hne⟩
  constructor
  . simpa using hne
  . apply not_of_mem_splitWhen hmem

theorem words_eq_singleton {w : Text} (hw : IsWord w) : words w = [w] := by
  unfold words
  rw [splitWhen_eq_singleton hw.2]
  simp [hw.1]

theorem flatten_words (s : Text) : (words s).flatten = s.filter (fun c => !isSpace c) := by
  rw [← flatten_splitWhen]
  unfold words
  apply List.flatten_filter_not_isEmpty

theorem words_eq_nil_iff {s : Text} : words s = [] ↔ s.isBlank = true := by
  constructor
  . intro h
    have hflat := flatten_words s
    rw [h, List.flatten_nil] at hflat
    rw [isBlank, List.all_eq_true]
    intro c hc
    simpa using List.filter_eq_nil_iff.1 hflat.symm c hc
  . intro h
    rw [isBlank, List.all_eq_true] at h
    induction s with
    | nil => rfl
    | cons c s ih =>
      rw [words_cons_space (h c (by simp))]
      apply ih (fun d hd => h d (by simp [hd]))

@[simp]
theorem join_nil (sep : Text) : join sep [] = [] := by
  simp [join]

@[simp]
theorem join_singleton (sep t : Text) : join sep [t] = t := by
  simp [join]

theorem join_cons_cons (sep t u : Text) (us : List Text)
    : join sep (t :: u :: us) = t ++ (sep ++ join sep (u :: us)) := by
  simp [join, List.intercalate]

theorem join_cons (sep t : Text) (ts : List Text)
    : join sep (t :: ts) = t ++ ts.flatMap (sep ++ ·) := by
  induction ts generalizing t with
  | nil => simp
  | cons u us ih =>
    rw [join_cons_cons, ih, List.flatMap_cons, List.append_assoc]

theorem words_join {ws : List Text} (h : ∀ w ∈ ws, IsWord w) : words (join [' '] ws) = ws := by
  induction ws with
  | nil => simp
  | cons w ws ih =>
    have hw : words w = [w] := words_eq_singleton (h w (by simp))
    cases ws with
    | nil =>
      rw [join_singleton]
      exact hw
    | cons v vs =>
      rw [join_cons_cons]
      rw [List.singleton_append]
      rw [words_append_space (by decide)]
      rw [hw]
      rw [ih (fun u hu => h u (by simp [hu]))]
      rfl

theorem forall_mem_join {p : Char → Prop} {sep : Text} {ts : List Text} (hsep : ∀ c ∈ sep, p c)
    (hts : ∀ t ∈ ts, ∀ c ∈ t, p c) : ∀ c ∈ join sep ts, p c := by
  cases ts with
  | nil => simp
  | cons t ts =>
    intro c hc
    rw [join_cons, List.mem_append, List.mem_flatMap] at hc
    rcases hc with hc | ⟨u, hu, hc⟩
    . apply hts t List.mem_cons_self c hc
    . rw [List.mem_append] at hc
      cases hc with
      | inl hc => exact hsep c hc
      | inr hc => exact hts u (List.mem_cons_of_mem _ hu) c hc

theorem exists_join_cons_eq_append (sep t : Text) (ts : List Text)
    : ∃ u, join sep (t :: ts) = t ++ u := by
  cases ts with
  | nil => exact ⟨[], by simp⟩
  | cons v vs => exact ⟨_, join_cons_cons sep t v vs⟩

theorem exists_join_concat_eq_append (sep t : Text) (ts : List Text)
    : ∃ u, join sep (ts ++ [t]) = u ++ t := by
  induction ts with
  | nil => exact ⟨[], by simp⟩
  | cons v vs ih =>
    rcases ih with ⟨u, hu⟩
    cases vs with
    | nil =>
      refine ⟨v ++ sep, ?_⟩
      rw [List.cons_append, List.nil_append]
      rw [join_cons_cons]
      simp
    | cons w ws =>
      refine ⟨v ++ (sep ++ u), ?_⟩
      rw [List.cons_append, List.cons_append]
      rw [join_cons_cons]
      rw [← List.cons_append, hu]
      simp

theorem join_concat (sep : Text) {ts : List Text} (hts : ts ≠ []) (t : Text)
    : join sep (ts ++ [t]) = join sep ts ++ (sep ++ t) := by
  rcases List.exists_cons_of_ne_nil hts with ⟨u, us, rfl⟩
  rw [List.cons_append, join_cons, join_cons, List.flatMap_append, List.append_assoc]
  rw [List.flatMap_singleton]

/--
A text without the white space at its ends, and with a single space for all white space between two
words.
-/
def collapse (s : Text) : Text :=
  join [' '] s.words

theorem trimStart_eq_self {s : Text} (h : ∀ c ∈ s.head?, isSpace c = false)
    : trimStart s = s := by
  unfold trimStart
  cases s with
  | nil => rfl
  | cons c s => simp [h c (by simp)]

theorem trimEnd_eq_self {s : Text} (h : ∀ c ∈ s.getLast?, isSpace c = false)
    : trimEnd s = s := by
  unfold trimEnd
  have := trimStart_eq_self (s := s.reverse) (by simpa using h)
  unfold trimStart at this
  rw [this]
  apply List.reverse_reverse s

theorem trim_eq_self {s : Text} (hhead : ∀ c ∈ s.head?, isSpace c = false)
    (hlast : ∀ c ∈ s.getLast?, isSpace c = false)
    : trim s = s := by
  unfold trim
  rw [trimStart_eq_self hhead]
  apply trimEnd_eq_self hlast

theorem trim_eq_self_of_isWord {w : Text} (hw : IsWord w) : trim w = w := by
  apply trim_eq_self
  . intro c hc
    apply hw.2 c (List.mem_of_mem_head? hc)
  . intro c hc
    apply hw.2 c (List.mem_of_mem_getLast? hc)

theorem trim_of_isBlank {s : Text} (h : s.isBlank = true) : s.trim = [] := by
  have hstart : s.trimStart = [] := by
    unfold trimStart
    rw [List.dropWhile_eq_nil_iff]
    apply List.all_eq_true.1 h
  unfold trim
  rw [hstart]
  rfl

end Text

end Scaffold
