import Scaffold.Interview.Sheet
import Scaffold.Proofs.Interview.Run

/-!
This module contains interviews that are kept on a sheet. Entries are made in place, yet a refused
answer leaves no trace on the sheet, and the sheet tells the same as the state of the interview: the
two have the same question open, take the same answers and end in the same specification.
-/

namespace Scaffold

namespace Interview

namespace Sheet

section Enter

variable {α : Type} {read : Except Refusal α} {write : α → Sheet → Sheet} {next : α → Step}

theorem enter_of_ok {a : α} (h : read = .ok a) (s : Sheet)
    : (enter read write next).run.run s = (.ok (next a), write a s) := by
  rw [h]
  rfl

theorem enter_of_error {refusal : Refusal} (h : read = .error refusal) (s : Sheet)
    : (enter read write next).run.run s = (.error refusal, s) := by
  rw [h]
  rfl

theorem eq_of_enter_eq_error {refusal : Refusal} {s t : Sheet}
    (h : (enter read write next).run.run s = (.error refusal, t))
    : t = s := by
  cases hread : read with
  | ok a =>
    rw [enter_of_ok hread] at h
    cases h
  | error cause =>
    rw [enter_of_error hread] at h
    cases h
    rfl

end Enter

section Feed

variable {α : Type} {read : Except Refusal α} {write : α → Sheet → Sheet} {next : α → Step}
  {s : Sheet} {line : Text}

theorem feed_of_ok {t : Sheet} {a : α} (hfill : s.fill line.trim = enter read write next)
    (hread : read = .ok a) (hwrite : { write a s with step := next a } = t)
    : s.feed line = (.ok t.step, t) := by
  subst hwrite
  unfold feed
  rw [hfill, hread]
  rfl

theorem feed_of_error {refusal : Refusal} (hfill : s.fill line.trim = enter read write next)
    (hread : read = .error refusal)
    : s.feed line = (.error refusal, s) := by
  unfold feed
  rw [hfill, hread]
  rfl

end Feed

theorem feed_eq (s : Sheet) (line : Text)
    : s.feed line =
        match (s.fill line.trim).run.run s with
        | (.ok next, t) => (.ok next, { t with step := next })
        | (.error refusal, t) => (.error refusal, t) := by
  unfold feed
  simp only [ExceptT.run_bind, StateT.run_bind]
  cases (s.fill line.trim).run.run s with
  | mk result t =>
    cases result with
    | ok next => rfl
    | error refusal => rfl

theorem eq_of_fill_eq_error {s t : Sheet} {answer : Text} {refusal : Refusal}
    (h : (s.fill answer).run.run s = (.error refusal, t))
    : t = s := by
  unfold fill at h
  split at h
  -- Behind the last question nothing is read.
  case h_9 =>
    cases h
    rfl
  all_goals exact eq_of_enter_eq_error h

theorem eq_of_feed_eq_error {s t : Sheet} {line : Text} {refusal : Refusal}
    (h : s.feed line = (.error refusal, t))
    : t = s := by
  rw [feed_eq] at h
  split at h
  . cases h
  . next hfill =>
    cases h
    apply eq_of_fill_eq_error hfill

theorem feed_of_done {s : Sheet} (h : s.step = .done) (line : Text)
    : s.feed line = (.error .finished, s) := by
  rw [feed_eq]
  unfold fill
  rw [h]
  rfl

theorem run_cons (s : Sheet) (line : Text) (lines : List Text)
    : s.run (line :: lines) = (s.feed line).2.run lines := rfl

section Accepted

variable {s t : Sheet} {line : Text} {lines : List Text}

theorem accepted_of_ok {next : Step} (h : s.feed line = (.ok next, t))
    : s.accepted (line :: lines) = line :: t.accepted lines := by
  rw [accepted, h]

theorem accepted_of_error {refusal : Refusal} (h : s.feed line = (.error refusal, t))
    : s.accepted (line :: lines) = s.accepted lines := by
  rw [accepted, h]
  dsimp only
  rw [eq_of_feed_eq_error h]

/--
Refused answers can be left out: what the others lead to is the same, and none of those is refused
now that they come alone.
-/
theorem run_accepted (s : Sheet) (lines : List Text)
    : s.run (s.accepted lines) = s.run lines ∧
        s.accepted (s.accepted lines) = s.accepted lines := by
  induction lines generalizing s with
  | nil => exact ⟨rfl, rfl⟩
  | cons line lines ih =>
    rcases hfeed : s.feed line with ⟨result, t⟩
    cases result with
    | ok next =>
      rcases ih t with ⟨hrun, haccepted⟩
      rw [accepted_of_ok hfeed, accepted_of_ok hfeed, run_cons, run_cons, hfeed]
      exact ⟨hrun, by rw [haccepted]⟩
    | error refusal =>
      rw [accepted_of_error hfeed, run_cons, hfeed, eq_of_feed_eq_error hfeed]
      apply ih

end Accepted

end Sheet

namespace State

def sheet : State → Sheet
  | kind => { step := .kind }
  | name k => { step := .name, kind := some k }
  | dataFields n => { step := .dataFields, kind := some .obligation, name := n }
  | verification n fs =>
    { step := .verification, kind := some .obligation, name := n, dataFields := fs }
  | obligationDemand n fs =>
    { step := .demandFields, kind := some .obligation, name := n, dataFields := fs
      hasVerification := true }
  | revocable n fs demand =>
    { step := .revocable, kind := some .obligation, name := n, dataFields := fs
      hasVerification := demand.isSome, demandFields := demand }
  | termCount n fs demand =>
    { step := .termCount, kind := some .obligation, name := n, dataFields := fs
      hasVerification := demand.isSome, demandFields := demand, isRevocable := true }
  | base n => { step := .base, kind := some .arbiter, name := n }
  | arbiterDemand n b => { step := .demandFields, kind := some .arbiter, name := n, base := b }
  | done (.obligation o) =>
    { step := .done, kind := some .obligation, name := o.name, dataFields := o.dataFields
      hasVerification := o.hasVerification, demandFields := o.demandFields
      isRevocable := o.isRevocable, termCount := o.termCount }
  | done (.arbiter a) =>
    { step := .done, kind := some .arbiter, name := a.name, base := a.base
      demandFields := some a.demandFields }

theorem sheet_start (k : Option Kind) : (start k).sheet = Sheet.start k := by
  cases k with
  | none => rfl
  | some k => rfl

theorem step_sheet (st : State) : st.sheet.step = st.step := by
  cases st with
  | done spec => cases spec <;> rfl
  | _ => rfl

theorem prompt_sheet (st : State) : st.sheet.prompt = st.prompt := by
  cases st with
  | name k => cases k <;> rfl
  | done spec => cases spec <;> rfl
  | _ => rfl

theorem finish_sheet (st : State) : st.sheet.finish = st.finish := by
  cases st with
  | done spec => cases spec <;> rfl
  | _ => rfl

theorem feed_sheet_of_accepts {st st' : State} {line : Text} (h : st.Accepts line.trim st')
    : st.sheet.feed line = (.ok st'.step, st'.sheet) := by
  rw [← step_sheet]
  cases h with
  | _ h => exact Sheet.feed_of_ok rfl h rfl

theorem feed_sheet_of_refuses {st : State} {line : Text} {refusal : Refusal}
    (h : st.Refuses line.trim refusal)
    : st.sheet.feed line = (.error refusal, st.sheet) := by
  cases h with
  | @done spec =>
    apply Sheet.feed_of_done
    apply step_sheet
  | @name k _ h =>
    -- What is written at the name depends on the kind of contract, which the sheet has to show.
    cases k with
    | obligation => exact Sheet.feed_of_error rfl h
    | arbiter => exact Sheet.feed_of_error rfl h
  | _ h => exact Sheet.feed_of_error rfl h

theorem feed_sheet (st : State) (line : Text)
    : st.sheet.feed line = ((st.feed line).map step, (st.answer line).sheet) := by
  cases hfeed : st.feed line with
  | ok st' =>
    rw [answer_of_ok hfeed, feed_sheet_of_accepts (accepts_of_feed hfeed)]
    rfl
  | error refusal =>
    rw [answer_of_error hfeed, feed_sheet_of_refuses (refuses_of_feed hfeed)]
    rfl

theorem sheet_run (st : State) (lines : List Text) : (st.run lines).sheet = st.sheet.run lines := by
  induction lines generalizing st with
  | nil => rfl
  | cons line lines ih => rw [run_cons, Sheet.run_cons, ih, feed_sheet]

theorem run_accepted_sheet (st : State) (lines : List Text)
    : st.run (st.sheet.accepted lines) = st.run lines := by
  induction lines generalizing st with
  | nil => rfl
  | cons line lines ih =>
    cases hfeed : st.feed line with
    | ok st' =>
      rw [Sheet.accepted_of_ok (feed_sheet_of_accepts (accepts_of_feed hfeed))]
      rw [run_cons, run_cons, answer_of_ok hfeed, ih]
    | error refusal =>
      rw [Sheet.accepted_of_error (feed_sheet_of_refuses (refuses_of_feed hfeed))]
      rw [run_cons, answer_of_error hfeed, ih]

/--
Whether a sheet tells the same as a state of the interview.
-/
structure IsKeptOn (st : State) (s : Sheet) : Prop where
  sheet_eq : st.sheet = s
  step : s.step = st.step
  prompt : s.prompt = st.prompt
  finish : s.finish = st.finish
  feed : ∀ line, s.feed line = ((st.feed line).map State.step, (st.answer line).sheet)

theorem isKeptOn_run (k : Option Kind) (lines : List Text)
    : ((start k).run lines).IsKeptOn ((Sheet.start k).run lines) := by
  rw [← sheet_start, ← sheet_run]
  constructor
  . rfl
  . apply step_sheet
  . apply prompt_sheet
  . apply finish_sheet
  . apply feed_sheet

end State

/--
A refused answer leaves no trace on the sheet that an interview is kept on. So refused answers can
be left out: the others, none of which is then refused, lead to the same sheet and to the same
specification. Behind the last question every answer is refused. As the sheet tells the same as the
state of the interview, refused answers make no difference to that either.
-/
theorem run_leaves_no_trace (k : Option Kind) (lines : List Text)
    : (∀ (line : Text) (refusal : Refusal) (s : Sheet),
        ((Sheet.start k).run lines).feed line = (.error refusal, s) →
          s = (Sheet.start k).run lines ∧ s.prompt = ((Sheet.start k).run lines).prompt) ∧
      (Sheet.start k).accepted ((Sheet.start k).accepted lines) = (Sheet.start k).accepted lines ∧
      (Sheet.start k).run ((Sheet.start k).accepted lines) = (Sheet.start k).run lines ∧
      ((Sheet.start k).run ((Sheet.start k).accepted lines)).finish =
        ((Sheet.start k).run lines).finish ∧
      (((Sheet.start k).run lines).step = .done → ∀ line,
        ((Sheet.start k).run lines).feed line = (.error .finished, (Sheet.start k).run lines)) ∧
      ((start k).run lines).IsKeptOn ((Sheet.start k).run lines) ∧
      (start k).run ((Sheet.start k).accepted lines) = (start k).run lines := by
  rcases Sheet.run_accepted (Sheet.start k) lines with ⟨hrun, haccepted⟩
  refine ⟨?_, haccepted, hrun, ?_, ?_, State.isKeptOn_run k lines, ?_⟩
  . intro line refusal s h
    have heq := Sheet.eq_of_feed_eq_error h
    exact ⟨heq, by rw [heq]⟩
  . rw [hrun]
  . intro hdone line
    apply Sheet.feed_of_done hdone
  . rw [← State.sheet_start]
    apply State.run_accepted_sheet

theorem run_leaves_no_trace_arbiter
    : (((Sheet.start (some .arbiter)).run ["1", "A"]).feed "A").2 =
        (Sheet.start (some .arbiter)).run ["1", "A"] ∧
      (Sheet.start (some .arbiter)).run ["A", "", ""] =
        (Sheet.start (some .arbiter)).run ["1", "A", "A", "", ""] ∧
      ((Sheet.start (some .arbiter)).run ["1", "A", "A", "", ""]).feed "B" =
        (.error .finished, (Sheet.start (some .arbiter)).run ["1", "A", "A", "", ""]) := by
  rcases run_leaves_no_trace (some .arbiter) ["1", "A"] with ⟨hrefused, -⟩
  rcases run_leaves_no_trace (some .arbiter) ["1", "A", "A", "", ""] with ⟨-, -, hrun, -, hdone, -⟩
  refine ⟨?_, ?_, ?_⟩
  . exact (hrefused "A" (.name "A") _ rfl).1
  . exact hrun
  . exact hdone (by decide) "B"

end Interview

end Scaffold
