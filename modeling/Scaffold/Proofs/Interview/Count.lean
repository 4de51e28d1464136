import Scaffold.Proofs.Field.Grammar
import Scaffold.Proofs.Interview.Sheet
import Scaffold.Proofs.Number.Checked
import Mathlib.Data.Nat.Digits.Defs

/-!
This module contains the answers that are taken at the question for the number of ways to end an
obligation: the written numbers that fit into 64 bits. They are read with their exact value, and it
is this value that the finished specification carries. Any other answer is refused.
-/

namespace Scaffold

namespace Interview

def placeValue (ds : Text) : Nat :=
  Nat.ofDigits 10 (ds.reverse.map fun d => d.toNat - '0'.toNat)

/--
Whether a text consists of digits, and of one at least, that have the given value.
-/
structure IsDecimal (ds : Text) (n : Nat) : Prop where
  ne_nil : ds ≠ []
  digits : ∀ d ∈ ds, '0' ≤ d ∧ d ≤ '9'
  value : placeValue ds = n

/--
Whether a text is a count with the given value: digits, with a plus sign in front if one likes.
-/
inductive IsCount : Text → Nat → Prop where
  | plain {ds : Text} {n : Nat} (h : IsDecimal ds n) : IsCount ds n
  | signed {ds : Text} {n : Nat} (h : IsDecimal ds n) : IsCount ('+' :: ds) n

theorem placeValue_eq_ofDigitChars (ds : Text) : placeValue ds = Nat.ofDigitChars 10 ds 0 := by
  unfold placeValue
  rw [Nat.ofDigits_eq_foldr, List.foldr_map, List.foldr_reverse, Nat.ofDigitChars_eq_foldl]
  simp only [Nat.cast_id, Nat.add_comm]

section

variable {ds t : Text} {n : Nat} {m : UInt64}

theorem isDecimal_iff
    : IsDecimal ds n ↔
        ds ≠ [] ∧ (∀ d ∈ ds, d.isDigit = true) ∧ Nat.ofDigitChars 10 ds 0 = n := by
  simp only [CharClass.isDigit_iff, ← placeValue_eq_ofDigitChars]
  constructor
  . intro h
    exact ⟨h.ne_nil, h.digits, h.value⟩
  . intro h
    exact ⟨h.1, h.2.1, h.2.2⟩

theorem not_isDecimal_plus (s : Text) (n : Nat) : ¬IsDecimal ('+' :: s) n := by
  intro h
  have := h.digits '+' (by simp)
  revert this
  decide

theorem isCount_plus_iff {s : Text} : IsCount ('+' :: s) n ↔ IsDecimal s n := by
  constructor
  . intro h
    cases h with
    | plain h => exact absurd h (not_isDecimal_plus s n)
    | signed h => exact h
  . exact .signed

theorem isCount_iff_isDecimal (h : ∀ s, t ≠ '+' :: s) : IsCount t n ↔ IsDecimal t n := by
  constructor
  . intro hcount
    cases hcount with
    | plain hdecimal => exact hdecimal
    | signed => exact absurd rfl (h _)
  . exact .plain

theorem lt_size_and_ofNat_eq_iff : n < UInt64.size ∧ UInt64.ofNat n = m ↔ n = m.toNat := by
  constructor
  . intro h
    rw [← h.2, UInt64.toNat_ofNat', Nat.mod_eq_of_lt h.1]
  . intro h
    rw [h, UInt64.ofNat_toNat]
    exact ⟨m.toNat_lt_size, rfl⟩

theorem count?_eq_some_iff : count? t = some m ↔ IsCount t m.toNat := by
  unfold count?
  simp only [Option.ite_none_right_eq_some, Bool.and_eq_true, Bool.not_eq_true', List.all_eq_true,
    decide_eq_true_eq, List.isEmpty_eq_false_iff, Option.some.injEq, and_assoc,
    lt_size_and_ofNat_eq_iff, ← isDecimal_iff]
  split
  . next s => rw [isCount_plus_iff]
  . next hplus => rw [isCount_iff_isDecimal (fun s h => hplus s h)]

theorem foldlM_pushDigit?_iff (hne : ds ≠ [])
    : ds.foldlM Checked.pushDigit? 0 = some m ↔ IsDecimal ds m.toNat := by
  rw [isDecimal_iff, Checked.foldlM_pushDigit?_eq_some_iff]
  simp [hne]

theorem ofText?_eq_some_iff : Checked.ofText? t = some m ↔ IsCount t m.toNat := by
  unfold Checked.ofText?
  split
  . rw [isCount_iff_isDecimal (by simp), isDecimal_iff]
    simp
  . rw [isCount_plus_iff, isDecimal_iff]
    simp
  . next s hne => rw [isCount_plus_iff, foldlM_pushDigit?_iff (fun h => hne h)]
  . next hnil hsign hplus => rw [isCount_iff_isDecimal hplus, foldlM_pushDigit?_iff hnil]

theorem count?_eq_ofText? (t : Text) : count? t = Checked.ofText? t := by
  apply Option.ext
  intro m
  rw [count?_eq_some_iff, ofText?_eq_some_iff]

theorem readCount_eq_ok_iff (hne : t ≠ []) : readCount t = .ok m ↔ IsCount t m.toNat := by
  rw [← count?_eq_some_iff]
  unfold readCount
  rw [if_neg (by simpa using hne)]
  cases count? t with
  | none => simp
  | some m' => simp

theorem readCount_eq_error (hne : t ≠ []) (h : ∀ n < 2 ^ 64, ¬IsCount t n)
    : readCount t = .error (.count t) := by
  unfold readCount
  rw [if_neg (by simpa using hne)]
  cases hcount : count? t with
  | none => rfl
  | some m => exact absurd (count?_eq_some_iff.1 hcount) (h _ m.toNat_lt)

theorem readCount_ofNat (hne : t ≠ []) (hn : n < 2 ^ 64) (h : IsCount t n)
    : readCount t = .ok (.ofNat n) := by
  rw [readCount_eq_ok_iff hne, UInt64.toNat_ofNat_of_lt' hn]
  exact h

end

namespace State

variable {st : State} {line : Text} {n : Nat}

theorem step_eq_termCount_iff
    : st.step = .termCount ↔ ∃ name fs demand, st = termCount name fs demand := by
  cases st <;> simp [step]

theorem run_concat (st : State) (lines : List Text) (line : Text)
    : st.run (lines ++ [line]) = (st.run lines).answer line := by
  apply List.foldl_concat

theorem feed_termCount (name : Text) (fs : FieldList) (demand : Option FieldList)
    (hline : line.trim ≠ []) (hn : n < 2 ^ 64) (h : IsCount line.trim n)
    : (termCount name fs demand).feed line =
        .ok (.done (obligation name fs demand (some (.ofNat n)))) := by
  rw [feed_eq_ok_iff]
  apply Accepts.termCount
  apply readCount_ofNat hline hn h

theorem feed_termCount_eq_error (name : Text) (fs : FieldList) (demand : Option FieldList)
    (hline : line.trim ≠ []) (h : ∀ n < 2 ^ 64, ¬IsCount line.trim n)
    : (termCount name fs demand).feed line = .error (.count line.trim) := by
  unfold feed
  dsimp only
  rw [readCount_eq_error hline h]
  rfl

end State

/--
The number of ways to end an obligation is read exactly. An answer that is not blank is accepted
exactly if it is a count that fits into 64 bits, and then this very number is what the finished
specification carries and what takes effect. Any other answer is refused and changes nothing.
Reading with checked arithmetic on words of 64 bits comes to the same.
-/
theorem feed_count_iff (k : Option Kind) (lines : List Text) (line : Text)
    (hstep : ((start k).run lines).step = .termCount) (hline : line.trim ≠ [])
    : ((∃ st, ((start k).run lines).feed line = .ok st) ↔ ∃ n < 2 ^ 64, IsCount line.trim n) ∧
      (∀ n < 2 ^ 64, IsCount line.trim n → ∃ o : Obligation,
        ((start k).run lines).feed line = .ok (.done (.obligation o)) ∧
          ((start k).run (lines ++ [line])).finish = some (.obligation o) ∧
          ((Sheet.start k).run (lines ++ [line])).finish = some (.obligation o) ∧
          o.termCount.toNat = n ∧ o.terms = n) ∧
      ((∀ n < 2 ^ 64, ¬IsCount line.trim n) →
        ((start k).run lines).feed line = .error (.count line.trim) ∧
          (start k).run (lines ++ [line]) = (start k).run lines ∧
          ((Sheet.start k).run lines).feed line =
            (.error (.count line.trim), (Sheet.start k).run lines)) ∧
      count? line.trim = Checked.ofText? line.trim := by
  rcases State.step_eq_termCount_iff.1 hstep with ⟨name, fs, demand, hst⟩
  simp only [← State.sheet_start, ← State.sheet_run, State.finish_sheet, State.run_concat, hst]
  refine ⟨?_, ?_, ?_, count?_eq_ofText? _⟩
  . constructor
    . intro h
      rcases h with ⟨st, hfeed⟩
      by_contra hnone
      have hrefused := State.feed_termCount_eq_error name fs demand hline
        (fun n hn hcount => hnone ⟨n, hn, hcount⟩)
      rw [hrefused] at hfeed
      cases hfeed
    . intro h
      rcases h with ⟨n, hn, hcount⟩
      exact ⟨_, State.feed_termCount name fs demand hline hn hcount⟩
  . intro n hn hcount
    have hfeed := State.feed_termCount name fs demand hline hn hcount
    have hvalue := UInt64.toNat_ofNat_of_lt' hn
    rw [State.answer_of_ok hfeed]
    exact ⟨_, hfeed, rfl, rfl, hvalue, hvalue⟩
  . intro hnone
    have hfeed := State.feed_termCount_eq_error name fs demand hline hnone
    refine ⟨hfeed, State.answer_of_error hfeed, ?_⟩
    apply State.feed_sheet_of_refuses (State.refuses_of_feed hfeed)

theorem feed_count_iff_largest
    : (∃ o : Obligation,
        ((start none).run ["o", "A", "uint256 n", "n", "y", " +00018446744073709551615"]).finish =
            some (.obligation o) ∧ o.terms = 18446744073709551615) ∧
      ((start none).run ["o", "A", "uint256 n", "n", "y"]).feed "18446744073709551616" =
        .error (.count "18446744073709551616") := by
  have hstep : ((start none).run ["o", "A", "uint256 n", "n", "y"]).step = .termCount := by
    decide
  constructor
  . have hcount : IsCount (Text.trim " +00018446744073709551615") 18446744073709551615 := by
      apply (count?_eq_some_iff (m := 18446744073709551615)).1
      decide +kernel
    rcases (feed_count_iff none ["o", "A", "uint256 n", "n", "y"] " +00018446744073709551615" hstep
      (by decide)).2.1 _ (by decide) hcount with ⟨o, -, hfinish, -, -, hterms⟩
    exact ⟨o, hfinish, hterms⟩
  . have hnone : ∀ n < 2 ^ 64, ¬IsCount (Text.trim "18446744073709551616") n := by
      intro n hn hcount
      rw [← UInt64.toNat_ofNat_of_lt' hn, ← count?_eq_some_iff] at hcount
      have hrefused : count? (Text.trim "18446744073709551616") = none := by decide +kernel
      rw [hrefused] at hcount
      cases hcount
    exact ((feed_count_iff none ["o", "A", "uint256 n", "n", "y"] "18446744073709551616" hstep
      (by decide)).2.2.1 hnone).1

end Interview

end Scaffold
