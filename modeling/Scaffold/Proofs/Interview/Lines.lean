import Scaffold.Interview.Session

/-!
This module contains the lines of an input: a description of them that does not say how they are
found, and the proof that cutting finds them. Lines of bytes that end in a line feed do not change
when further bytes come in.
-/

namespace Scaffold

namespace Interview

/--
The lines of some bytes: each reaches up to a line feed, and what stands behind the last line feed
is a line of its own unless it is empty.
-/
inductive Lines : Bytes → List Bytes → Prop where
  | nil : Lines [] []
  | unclosed {l : Bytes} (hne : l ≠ []) (h : 0x0A ∉ l) : Lines l [l]
  | closed {l s : Bytes} {ls : List Bytes} (h : 0x0A ∉ l) (hs : Lines s ls)
    : Lines (l ++ 0x0A :: s) ((l ++ [0x0A]) :: ls)

section Lines

variable {l s t : Bytes} {ls ms : List Bytes}

theorem cutLines_unclosed (hne : l ≠ []) (h : 0x0A ∉ l) : cutLines l = [l] := by
  induction l with
  | nil => exact absurd rfl hne
  | cons b l ih =>
    rw [List.mem_cons, not_or] at h
    rw [cutLines, if_neg (Ne.symm h.1)]
    cases l with
    | nil => rfl
    | cons c l => rw [ih (by simp) h.2]

theorem cutLines_closed (h : 0x0A ∉ l) (s : Bytes)
    : cutLines (l ++ 0x0A :: s) = (l ++ [0x0A]) :: cutLines s := by
  induction l with
  | nil => rfl
  | cons b l ih =>
    rw [List.mem_cons, not_or] at h
    rw [List.cons_append, cutLines]
    rw [if_neg (Ne.symm h.1), ih h.2]
    rfl

theorem lines_cutLines (s : Bytes) : Lines s (cutLines s) := by
  induction s with
  | nil => exact .nil
  | cons b s ih =>
    rw [cutLines]
    split
    . next hb =>
      subst hb
      exact .closed (l := []) (by simp) ih
    . next hb =>
      have hb' : 0x0A ≠ b := Ne.symm hb
      generalize cutLines s = ls at ih
      cases ih with
      | nil => exact .unclosed (by simp) (by simpa using hb')
      | unclosed hne h => exact .unclosed (by simp) (by simp [hb', h])
      | closed h hs => exact .closed (l := b :: _) (by simp [hb', h]) hs

theorem Lines.cutLines_eq (h : Lines s ls) : cutLines s = ls := by
  induction h with
  | nil => rfl
  | unclosed hne h => exact cutLines_unclosed hne h
  | closed h hs ih => rw [cutLines_closed h, ih]

theorem Lines.append (h : Lines s ls) (hs : s.getLast? = some 0x0A) (ht : Lines t ms)
    : Lines (s ++ t) (ls ++ ms) := by
  -- Only a closed line can be the last one, so nothing of `t` is drawn into a line of `s`.
  induction h with
  | nil => cases hs
  | unclosed hne h => exact absurd (List.mem_of_mem_getLast? hs) h
  | @closed l s ls h hs' ih =>
    rw [List.append_assoc, List.cons_append, List.cons_append]
    apply Lines.closed h
    cases hs' with
    | nil => exact ht
    | unclosed hne h' =>
      apply ih
      simpa [List.getLast?_append, List.getLast?_cons, List.getLast?_eq_some_getLast hne] using hs
    | closed h' hs'' =>
      apply ih
      simpa [List.getLast?_append, List.getLast?_cons] using hs

end Lines

end Interview

end Scaffold
