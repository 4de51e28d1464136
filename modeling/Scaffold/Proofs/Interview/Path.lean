import Scaffold.Proofs.Interview.Run

/-!
This module contains the order in which an interview asks its questions. A state tells which
questions have been answered on the way to it, so the specification in which an interview ends tells
all of them. With every accepted answer fewer questions can still come, so interviews end.
-/

namespace Scaffold

namespace Interview

namespace Step

/--
How many questions can come at most from a question on, itself included.
-/
def rank : Step → Nat
  | kind => 7
  | name => 6
  | dataFields => 5
  | verification => 4
  | base => 4
  | demandFields => 3
  | revocable => 2
  | termCount => 1
  | done => 0

end Step

def kindSteps (k : Option Kind) : List Step :=
  if k.isNone then [.kind] else []

def stepsTo (k : Option Kind) : Spec → List Step
  | .obligation o =>
    kindSteps k ++ [.name, .dataFields, .verification] ++
    (if o.hasVerification then [.demandFields] else []) ++ [.revocable] ++
    (if o.isRevocable then [.termCount] else [])
  | .arbiter _ => kindSteps k ++ [.name, .base, .demandFields]

namespace State

def path (st : State) : List Text → List Step
  | [] => []
  | line :: lines =>
    match st.feed line with
    | .ok st' => st.step :: st'.path lines
    | .error _ => st.path lines

section Path

variable {st st' : State} {line : Text} {lines : List Text}

theorem path_of_ok (h : st.feed line = .ok st')
    : st.path (line :: lines) = st.step :: st'.path lines := by
  rw [path, h]

theorem path_of_error {refusal : Refusal} (h : st.feed line = .error refusal)
    : st.path (line :: lines) = st.path lines := by
  rw [path, h]

theorem rank_lt_of_feed (h : st.feed line = .ok st') : st'.step.rank < st.step.rank := by
  cases accepts_of_feed h with
  | _ => simp [step, Step.rank]

theorem length_path_add_rank_le (st : State) (lines : List Text)
    : (st.path lines).length + (st.run lines).step.rank ≤ st.step.rank := by
  induction lines generalizing st with
  | nil => simp [path, run]
  | cons line lines ih =>
    cases hfeed : st.feed line with
    | ok st' =>
      have hrank := rank_lt_of_feed hfeed
      have hrest := ih st'
      rw [path_of_ok hfeed, run_cons, answer_of_ok hfeed, List.length_cons]
      omega
    | error refusal =>
      rw [path_of_error hfeed, run_cons, answer_of_error hfeed]
      apply ih

theorem rank_le_of_mem_path {step : Step} (h : step ∈ st.path lines)
    : step.rank ≤ st.step.rank := by
  induction lines generalizing st with
  | nil => cases h
  | cons line lines ih =>
    cases hfeed : st.feed line with
    | ok st' =>
      have hrank := rank_lt_of_feed hfeed
      rw [path_of_ok hfeed, List.mem_cons] at h
      rcases h with rfl | h
      . apply Nat.le_refl
      . have := ih h
        omega
    | error refusal =>
      rw [path_of_error hfeed] at h
      apply ih h

theorem nodup_path (st : State) (lines : List Text) : (st.path lines).Nodup := by
  induction lines generalizing st with
  | nil => exact List.nodup_nil
  | cons line lines ih =>
    cases hfeed : st.feed line with
    | ok st' =>
      rw [path_of_ok hfeed, List.nodup_cons]
      refine ⟨?_, ih st'⟩
      -- All later questions have a lower rank than this one.
      intro hmem
      have hrank := rank_lt_of_feed hfeed
      have hle := rank_le_of_mem_path hmem
      omega
    | error refusal =>
      rw [path_of_error hfeed]
      apply ih

end Path

def answered (k : Option Kind) : State → List Step
  | kind => []
  | name _ => kindSteps k
  | dataFields _ => kindSteps k ++ [.name]
  | verification _ _ => kindSteps k ++ [.name, .dataFields]
  | obligationDemand _ _ => kindSteps k ++ [.name, .dataFields, .verification]
  | revocable _ _ demand =>
    kindSteps k ++ [.name, .dataFields, .verification] ++
    (if demand.isSome then [.demandFields] else [])
  | termCount _ _ demand =>
    kindSteps k ++ [.name, .dataFields, .verification] ++
    (if demand.isSome then [.demandFields] else []) ++ [.revocable]
  | base _ => kindSteps k ++ [.name]
  | arbiterDemand _ _ => kindSteps k ++ [.name, .base]
  | done spec => stepsTo k spec

section Answered

variable {k : Option Kind} {st st' : State} {line : Text}

theorem ne_kind_of_feed (h : st.feed line = .ok st') : st' ≠ kind := by
  cases accepts_of_feed h with
  | _ => simp

theorem answered_of_feed (hst : st = kind → k = none) (h : st.feed line = .ok st')
    : answered k st' = answered k st ++ [st.step] := by
  cases accepts_of_feed h with
  | kind h =>
    rw [hst rfl]
    rfl
  | _ => simp [answered, stepsTo, obligation, step]

theorem answered_run (hst : st = kind → k = none) (lines : List Text)
    : answered k (st.run lines) = answered k st ++ st.path lines := by
  -- `hst` is used at the first answer only: nothing leads back to the question for the kind.
  induction lines generalizing st with
  | nil => simp [path, run]
  | cons line lines ih =>
    cases hfeed : st.feed line with
    | ok st' =>
      have hst' : st' = kind → k = none := fun h => absurd h (ne_kind_of_feed hfeed)
      rw [run_cons, answer_of_ok hfeed, ih hst']
      rw [answered_of_feed hst hfeed, path_of_ok hfeed]
      simp
    | error refusal =>
      rw [run_cons, answer_of_error hfeed, ih hst, path_of_error hfeed]

end Answered

end State

theorem path_start (k : Option Kind) (lines : List Text)
    : (start k).path lines = State.answered k ((start k).run lines) := by
  cases k with
  | none =>
    rw [State.answered_run (fun _ => rfl)]
    rfl
  | some kind =>
    rw [State.answered_run (fun h => State.noConfusion h)]
    rfl

/--
Every interview follows the order of the questions and ends. The questions that have been answered
when it is over are those that lead to its specification, in their order. No question is answered
twice, there are seven at most, and with every accepted answer fewer can still come.
-/
theorem path_eq_stepsTo
    : (∀ (k : Option Kind) (lines : List Text), ((start k).run lines).step = .done →
        ∃ spec, ((start k).run lines).finish = some spec ∧
          (start k).path lines = stepsTo k spec) ∧
      (∀ (k : Option Kind) (lines : List Text),
        ((start k).path lines).Nodup ∧ ((start k).path lines).length ≤ 7) ∧
      (∀ (k : Option Kind) (lines : List Text) (line : Text) (st : State),
        ((start k).run lines).feed line = .ok st →
          st.step.rank < ((start k).run lines).step.rank) := by
  refine ⟨?_, ?_, ?_⟩
  . intro k lines hdone
    rcases State.step_eq_done_iff.1 hdone with ⟨spec, hspec⟩
    refine ⟨spec, ?_, ?_⟩
    . rw [hspec]
      rfl
    . rw [path_start, hspec]
      rfl
  . intro k lines
    have hlength := State.length_path_add_rank_le (start k) lines
    have hstart : (start k).step.rank ≤ 7 := by
      cases k with
      | none => exact Nat.le_refl 7
      | some kind => exact Nat.le_succ 6
    exact ⟨State.nodup_path _ _, by omega⟩
  . intro k lines line st h
    apply State.rank_lt_of_feed h

theorem path_eq_stepsTo_payment
    : (∃ spec, ((start none).run ["?", "o", "1", "", "", "y", "sure", "", "y", "-1", "3"]).finish =
          some spec ∧
        (start none).path ["?", "o", "1", "", "", "y", "sure", "", "y", "-1", "3"] =
          stepsTo none spec) ∧
      (∃ spec, ((start (some .arbiter)).run ["A", "A", "", ""]).finish = some spec ∧
        (start (some .arbiter)).path ["A", "A", "", ""] = stepsTo (some .arbiter) spec) ∧
      (State.step (.dataFields "A")).rank < ((start (some .obligation)).run ["1"]).step.rank := by
  rcases path_eq_stepsTo with ⟨hdone, -, hrank⟩
  refine ⟨?_, ?_, ?_⟩
  . exact hdone none ["?", "o", "1", "", "", "y", "sure", "", "y", "-1", "3"] (by decide)
  . exact hdone (some .arbiter) ["A", "A", "", ""] (by decide)
  . exact hrank (some .obligation) ["1"] "A" _ (by decide)

end Interview

end Scaffold
