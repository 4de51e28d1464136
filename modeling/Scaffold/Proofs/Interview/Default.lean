import Scaffold.Proofs.Interview.Sheet
import Scaffold.Proofs.Text.Lines

/-!
This module contains the defaults that questions show in brackets, read from the prompt as the user
sees it, and the proof that a blank answer is taken like the default that is shown. At the question
for the demand of an obligation the default is what was told before as its data, so there the proof
needs that these have been read from an answer.
-/

namespace Scaffold

namespace Interview

/--
Whether a prompt shows a default: what stands in brackets at its end, if these are the only ones.
-/
def Displays (prompt shown : Text) : Prop :=
  ∃ question, '[' ∉ question ∧ prompt = question ++ '[' :: (shown ++ [']'])

/--
The answer that is meant by what a prompt shows. If two letters are shown, it is the capital.
-/
def meant (shown : Text) : Text :=
  if shown = "y/N" then "N" else shown

theorem isIdentifier_defaultName (k : Kind) : (defaultName k).isIdentifier = true := by
  unfold defaultName
  cases k with
  | _ =>
    dsimp only
    rw [String.toList_ofList]
    decide

theorem readName_nil (k : Kind) : readName k [] = .ok (defaultName k) := by
  unfold readName
  simp [isIdentifier_defaultName]

theorem meant_letters : meant "y/N" = "N" := by
  unfold meant
  rw [if_pos rfl]

theorem trim_letter : Text.trim "N" = "N" := by
  apply Text.trim_eq_self_of_isWord
  apply Text.isWord_of_isIdentifier
  rfl

theorem meant_of_isIdentifier {n : Text} (h : n.isIdentifier = true) : meant n = n := by
  unfold meant
  rw [if_neg]
  intro heq
  rw [heq, String.toList_ofList] at h
  cases h

theorem meant_toDigits (n : Nat) : meant (Nat.toDigits 10 n) = Nat.toDigits 10 n := by
  unfold meant
  rw [if_neg]
  intro heq
  have hdigit : ('y').isDigit = true := by
    apply Nat.isDigit_of_mem_toDigits (b := 10) (n := n) (by omega) (by omega)
    rw [heq, String.toList_ofList]
    apply List.mem_cons_self
  revert hdigit
  decide

theorem meant_signature {fs : FieldList} (h : fs.IsValid) : meant fs.signature = fs.signature := by
  unfold meant
  rw [if_neg]
  intro heq
  have hparse := FieldList.parse_signature h
  rw [heq] at hparse
  cases hparse

namespace State

variable {st : State} {shown : Text}

theorem not_mem_question_of_hint (h : st.hint? = some shown) : '[' ∉ st.question := by
  unfold question
  cases st with
  | kind => cases h
  | name k =>
    cases k with
    | _ =>
      dsimp only
      rw [String.toList_ofList]
      decide
  | base n => cases h
  | done spec => cases h
  | _ =>
    dsimp only
    rw [String.toList_ofList]
    decide

theorem getLast?_question_of_hint (h : st.hint? = none) : st.question.getLast? ≠ some ']' := by
  unfold question
  cases st with
  | kind =>
    rw [String.toList_ofList]
    decide
  | base n =>
    dsimp only
    rw [String.toList_ofList]
    decide
  | done spec => simp
  | _ => cases h

theorem displays_prompt_iff : Displays st.prompt shown ↔ st.hint? = some shown := by
  unfold prompt
  cases hhint : st.hint? with
  | none =>
    simp only [reduceCtorEq, iff_false]
    rintro ⟨question, -, hprompt⟩
    apply getLast?_question_of_hint hhint
    rw [hprompt, ← List.cons_append, ← List.append_assoc]
    apply List.getLast?_concat
  | some hint =>
    have hquestion : '[' ∉ st.question ++ [' '] := by
      simp [not_mem_question_of_hint hhint]
    have hprompt : st.question ++ " [".toList ++ hint ++ "]".toList =
        (st.question ++ [' ']) ++ '[' :: (hint ++ [']']) := by
      repeat rw [String.toList_ofList]
      simp
    dsimp only
    rw [hprompt, Option.some.injEq]
    constructor
    . rintro ⟨question, hq, heq⟩
      rcases eq_of_append_cons_eq hq hquestion heq with ⟨-, -, hshown⟩
      apply List.append_cancel_right hshown
    . rintro rfl
      exact ⟨_, hquestion, rfl⟩

theorem accepts_meant (hst : st.IsSound) (h : st.hint? = some shown)
    : (meant shown).trim = meant shown ∧
      ∃ st', st.Accepts [] st' ∧ st.Accepts (meant shown) st' := by
  have hdefault := readFields_signature isValid_defaultFields
  cases st with
  | kind => cases h
  | name k =>
    cases h
    have hname := isIdentifier_defaultName k
    rw [meant_of_isIdentifier hname]
    refine ⟨Text.trim_eq_self_of_isWord (Text.isWord_of_isIdentifier hname), ?_⟩
    cases k with
    | obligation =>
      exact ⟨_, .obligationName (readName_nil _), .obligationName (readName_self hname _)⟩
    | arbiter => exact ⟨_, .arbiterName (readName_nil _), .arbiterName (readName_self hname _)⟩
  | dataFields n =>
    cases h
    rw [meant_signature isValid_defaultFields]
    refine ⟨FieldList.trim_signature isValid_defaultFields, ?_⟩
    exact ⟨_, .dataFields rfl, .dataFields (hdefault _)⟩
  | verification n fs =>
    cases h
    rw [meant_letters]
    exact ⟨trim_letter, _, .unverified rfl, .unverified rfl⟩
  | obligationDemand n fs =>
    -- Only here is the default not fixed; its signature is read back because the data are valid.
    cases h
    rw [meant_signature hst.2]
    refine ⟨FieldList.trim_signature hst.2, ?_⟩
    exact ⟨_, .obligationDemand rfl, .obligationDemand (readFields_signature hst.2 fs)⟩
  | revocable n fs demand =>
    cases h
    rw [meant_letters]
    exact ⟨trim_letter, _, .irrevocable rfl, .irrevocable rfl⟩
  | termCount n fs demand =>
    cases h
    rw [meant_toDigits]
    refine ⟨Text.trim_eq_self_of_isWord (isWord_toDigits _), ?_⟩
    exact ⟨_, .termCount rfl, .termCount (readCount_toDigits defaultTermCount)⟩
  | base n => cases h
  | arbiterDemand n b =>
    cases h
    rw [meant_signature isValid_defaultFields]
    refine ⟨FieldList.trim_signature isValid_defaultFields, ?_⟩
    exact ⟨_, .arbiterDemand rfl, .arbiterDemand (hdefault _)⟩
  | done spec => cases h

theorem isSome_hint_iff
    : st.hint?.isSome = true ↔ st.step ≠ .kind ∧ st.step ≠ .base ∧ st.step ≠ .done := by
  cases st <;> simp [hint?, step]

end State

/--
Wherever a default is shown, a blank answer leads to the same state as the default itself, and to
the same entries on the sheet; both answers are accepted. All questions show a default but those for
the kind of contract and for the base obligation. The demand of an obligation is the same as its
data if the answer is blank, and if it is the signature that is shown.
-/
theorem feed_blank_eq_feed_meant (k : Option Kind) (lines : List Text) (blank : Text)
    (hblank : blank.isBlank = true)
    : (∀ shown, Displays ((start k).run lines).prompt shown →
        ∃ st, ((start k).run lines).feed blank = .ok st ∧
          ((start k).run lines).feed (meant shown) = .ok st ∧
          ((Sheet.start k).run lines).feed blank = (.ok st.step, st.sheet) ∧
          ((Sheet.start k).run lines).feed (meant shown) = (.ok st.step, st.sheet)) ∧
      ((∃ shown, Displays ((start k).run lines).prompt shown) ↔
        ((start k).run lines).step ≠ .kind ∧ ((start k).run lines).step ≠ .base ∧
          ((start k).run lines).step ≠ .done) ∧
      (∀ n fs, (start k).run lines = .obligationDemand n fs →
        Displays ((start k).run lines).prompt fs.signature ∧
          ((start k).run lines).feed blank = .ok (.revocable n fs (some fs)) ∧
          ((start k).run lines).feed fs.signature = .ok (.revocable n fs (some fs))) := by
  have hsound := State.run_invariant State.isSound_of_feed (State.isSound_start k) lines
  have htrim := Text.trim_of_isBlank hblank
  have hsheet : (Sheet.start k).run lines = ((start k).run lines).sheet := by
    rw [State.sheet_run, State.sheet_start]
  refine ⟨?_, ?_, ?_⟩
  . intro shown hshown
    rw [State.displays_prompt_iff] at hshown
    rcases State.accepts_meant hsound hshown with ⟨hmeant, st, hnil, haccepts⟩
    rw [← htrim] at hnil
    rw [← hmeant] at haccepts
    rw [hsheet]
    refine ⟨st, State.feed_eq_ok_iff.2 hnil, State.feed_eq_ok_iff.2 haccepts, ?_, ?_⟩
    . apply State.feed_sheet_of_accepts hnil
    . apply State.feed_sheet_of_accepts haccepts
  . rw [← State.isSome_hint_iff, Option.isSome_iff_exists]
    simp only [State.displays_prompt_iff]
  . intro n fs hrun
    rw [hrun] at hsound ⊢
    refine ⟨State.displays_prompt_iff.2 rfl, ?_, ?_⟩
    . rw [State.feed_eq_ok_iff, htrim]
      exact .obligationDemand rfl
    . apply feed_of_trim (FieldList.trim_signature hsound.2)
      exact .obligationDemand (readFields_signature hsound.2 fs)

theorem feed_blank_eq_feed_meant_digest
    : ((start none).run ["o", "A", " bytes32\tdigest ", "y"]).feed "\t" =
          .ok (.revocable "A" [⟨"bytes32", "digest"⟩] (some [⟨"bytes32", "digest"⟩])) ∧
      ((start none).run ["o", "A", " bytes32\tdigest ", "y"]).feed "bytes32 digest" =
          .ok (.revocable "A" [⟨"bytes32", "digest"⟩] (some [⟨"bytes32", "digest"⟩])) ∧
      (∃ st, ((start none).run ["o", "A"]).feed " " = .ok st ∧
        ((start none).run ["o", "A"]).feed "address token, uint256 amount" = .ok st) := by
  rcases feed_blank_eq_feed_meant none ["o", "A", " bytes32\tdigest ", "y"] "\t" (by decide) with
    ⟨-, -, hdemand⟩
  rcases feed_blank_eq_feed_meant none ["o", "A"] " " (by decide) with ⟨hshown, -⟩
  have hrun : (start none).run ["o", "A", " bytes32\tdigest ", "y"] =
      .obligationDemand "A" [⟨"bytes32", "digest"⟩] := by
    decide
  refine ⟨(hdemand _ _ hrun).2.1, (hdemand _ _ hrun).2.2, ?_⟩
  rcases hshown "address token, uint256 amount" (State.displays_prompt_iff.2 rfl) with
    ⟨st, hblank, hdefault, -⟩
  exact ⟨st, hblank, hdefault⟩

end Interview

end Scaffold
