import Scaffold.Command.Failure
import Scaffold.Proofs.Interview.Lines
import Scaffold.Proofs.Interview.Run

/-!
This module contains interviews as they are held on a terminal. `Course` says which answers an
interview takes from the lines that come in and which lines it leaves, and `State.transcript` says
what is written while these answers come in. `hold_of_course` says that what comes of holding an
interview depends on nothing else.
-/

namespace Scaffold

namespace Interview

namespace State

/--
What is written when an answer has come in: why it is refused, or the next question. Nothing is
written yet if there is no further question.
-/
def response (st : State) (answer : Text) : Text :=
  match st.feed answer with
  | .error refusal => refusal.message ++ ['\n']
  | .ok st' => if st'.step = .done then [] else st'.prompt ++ ['\n']

def exchanges (st : State) : List Text → Text
  | [] => []
  | answer :: answers => "> ".toList ++ st.response answer ++ (st.answer answer).exchanges answers

/--
What is written at the end: that the interview is over, or the mark in front of the answer that
does not come.
-/
def farewell (st : State) : Text :=
  if st.step = .done then "Generating contract...\n" else "> "

def transcript (st : State) (answers : List Text) : Text :=
  st.prompt ++ '\n' :: (st.exchanges answers ++ (st.run answers).farewell)

def verdict (st : State) (rest : List Bytes) : Except Breakdown Spec :=
  match st.finish with
  | some spec => .ok spec
  | none => if rest.isEmpty then .error (.ended st.step) else .error .unreadable

/--
The lines that such an interview has not read. The one that is not a text has been read.
-/
def unread (st : State) (rest : List Bytes) : List Bytes :=
  if st.step = .done then rest else rest.tail

theorem finish_eq_none_iff {st : State} : st.finish = none ↔ st.step ≠ .done := by
  cases st <;> simp [finish, step]

section Verdict

variable {st : State} {rest : List Bytes} {spec : Spec} {step : Step}

theorem verdict_eq_ok_iff : st.verdict rest = .ok spec ↔ st.finish = some spec := by
  unfold verdict
  cases hfinish : st.finish with
  | some spec' => simp
  | none => cases rest <;> simp

theorem verdict_eq_unreadable_iff
    : st.verdict rest = .error .unreadable ↔ st.step ≠ .done ∧ rest ≠ [] := by
  rw [← finish_eq_none_iff]
  unfold verdict
  cases hfinish : st.finish with
  | some spec => simp
  | none => cases rest <;> simp

theorem verdict_eq_ended_iff
    : st.verdict rest = .error (.ended step) ↔ st.step = step ∧ step ≠ .done ∧ rest = [] := by
  unfold verdict
  cases hfinish : st.finish with
  | some spec =>
    have hdone : st.step = .done := by
      rw [← not_ne_iff, ← finish_eq_none_iff, hfinish]
      simp
    simp only [reduceCtorEq, false_iff, not_and]
    intro hstep hopen
    exact absurd (hstep.symm.trans hdone) hopen
  | none =>
    have hopen := finish_eq_none_iff.1 hfinish
    cases rest with
    | cons l ls => simp
    | nil =>
      simp only [List.isEmpty_nil, if_true, Except.error.injEq, Breakdown.ended.injEq, and_true]
      constructor
      . intro hstep
        exact ⟨hstep, hstep ▸ hopen⟩
      . exact And.left

end Verdict

theorem run_done (spec : Spec) (answers : List Text) : (done spec).run answers = done spec := by
  induction answers with
  | nil => rfl
  | cons answer answers ih => exact ih

end State

abbrev Spelled (lines : List Bytes) (answers : List Text) : Prop :=
  List.Forall₂ (fun line answer => Text.ofUtf8? line = some answer) lines answers

/--
The answers that an interview takes from some lines, and the lines that are left: a line is taken as
long as a question is open, there is a line and this line is a text.
-/
inductive Course : State → List Bytes → List Text → List Bytes → Prop where
  | done {spec : Spec} {lines : List Bytes} : Course (.done spec) lines [] lines
  | ended {st : State} (h : st.step ≠ .done) : Course st [] [] []
  | unreadable {st : State} {l : Bytes} {ls : List Bytes} (h : st.step ≠ .done)
      (hl : Text.ofUtf8? l = none)
    : Course st (l :: ls) [] (l :: ls)
  | answered {st : State} {l : Bytes} {ls rest : List Bytes} {answer : Text} {answers : List Text}
      (h : st.step ≠ .done) (hl : Text.ofUtf8? l = some answer)
      (hs : Course (st.answer answer) ls answers rest)
    : Course st (l :: ls) (answer :: answers) rest

theorem exists_course (st : State) (lines : List Bytes)
    : ∃ answers rest, Course st lines answers rest := by
  induction lines generalizing st with
  | nil =>
    by_cases h : st.step = .done
    . rcases State.step_eq_done_iff.1 h with ⟨spec, rfl⟩
      exact ⟨_, _, .done⟩
    . exact ⟨_, _, .ended h⟩
  | cons l ls ih =>
    by_cases h : st.step = .done
    . rcases State.step_eq_done_iff.1 h with ⟨spec, rfl⟩
      exact ⟨_, _, .done⟩
    . cases hl : Text.ofUtf8? l with
      | none => exact ⟨_, _, .unreadable h hl⟩
      | some answer =>
        rcases ih (st.answer answer) with ⟨answers, rest, hs⟩
        exact ⟨_, _, .answered h hl hs⟩

section Reply

variable {st : State} {l : Bytes} {answer : Text} (hl : Text.ofUtf8? l = some answer)

include hl

theorem reply_of_open (hnext : (st.answer answer).step ≠ .done)
    : reply st l = (st.response answer ++ "> ".toList, .waiting (st.answer answer)) := by
  unfold State.answer at hnext ⊢
  unfold reply State.response
  rw [hl]
  dsimp only
  cases hfeed : st.feed answer with
  | error refusal => simp [mark]
  | ok st' =>
    rw [hfeed] at hnext
    dsimp only at hnext ⊢
    rw [if_neg hnext]
    cases st' with
    | done spec => exact absurd rfl hnext
    | _ => simp [ask, mark]

theorem reply_of_done {spec : Spec} (hopen : st.step ≠ .done)
    (hnext : st.answer answer = .done spec)
    : st.response answer = [] ∧
        reply st l = ("Generating contract...\n".toList, .finished spec) := by
  unfold State.answer at hnext
  unfold reply State.response
  rw [hl]
  dsimp only
  cases hfeed : st.feed answer with
  | error refusal =>
    rw [hfeed] at hnext
    subst hnext
    exact absurd rfl hopen
  | ok st' =>
    rw [hfeed] at hnext
    subst hnext
    exact ⟨rfl, rfl⟩

end Reply

namespace Course

variable {st : State} {lines rest : List Bytes} {answers : List Text}

theorem of_done {spec : Spec} (h : Course (.done spec) lines answers rest)
    : answers = [] ∧ rest = lines := by
  cases h with
  | done => exact ⟨rfl, rfl⟩
  | ended h => exact absurd rfl h
  | unreadable h => exact absurd rfl h
  | answered h => exact absurd rfl h

theorem of_nil (h : Course st [] answers rest) : answers = [] ∧ rest = [] := by
  cases h with
  | done => exact ⟨rfl, rfl⟩
  | ended => exact ⟨rfl, rfl⟩

theorem of_unreadable {l : Bytes} (hl : Text.ofUtf8? l = none)
    (h : Course st (l :: lines) answers rest)
    : answers = [] ∧ rest = l :: lines := by
  cases h with
  | done => exact ⟨rfl, rfl⟩
  | unreadable => exact ⟨rfl, rfl⟩
  | answered _ hl' =>
    rw [hl] at hl'
    cases hl'

theorem deterministic {answers' : List Text} {rest' : List Bytes}
    (h : Course st lines answers rest) (h' : Course st lines answers' rest')
    : answers = answers' ∧ rest = rest' := by
  induction h generalizing answers' with
  | done =>
    rcases h'.of_done with ⟨rfl, rfl⟩
    exact ⟨rfl, rfl⟩
  | ended =>
    rcases h'.of_nil with ⟨rfl, rfl⟩
    exact ⟨rfl, rfl⟩
  | unreadable h hl =>
    rcases h'.of_unreadable hl with ⟨rfl, rfl⟩
    exact ⟨rfl, rfl⟩
  | answered h hl hs ih =>
    cases h' with
    | done => exact absurd rfl h
    | unreadable h hl' =>
      rw [hl] at hl'
      cases hl'
    | answered h hl' hs' =>
      rw [hl] at hl'
      cases hl'
      rcases ih hs' with ⟨rfl, rfl⟩
      exact ⟨rfl, rfl⟩

theorem resume_eq (h : Course st lines answers rest) (hst : st.step ≠ .done)
    : (Session.resume st lines).after "> " =
        ⟨st.exchanges answers ++ (st.run answers).farewell, (st.run answers).verdict rest,
          (st.run answers).unread rest⟩ := by
  induction h with
  | done => exact absurd rfl hst
  | @ended st h =>
    simp [Session.resume, Session.after, State.exchanges, State.farewell, State.run, h,
      State.verdict, State.finish_eq_none_iff.2 h, State.unread]
  | @unreadable st l ls h hl =>
    simp [Session.resume, reply, hl, Session.after, State.exchanges, State.farewell, State.run, h,
      State.verdict, State.finish_eq_none_iff.2 h, State.unread]
  | @answered st l ls rest answer answers h hl hs ih =>
    unfold Session.resume
    rw [State.exchanges, State.run_cons]
    by_cases hnext : (st.answer answer).step = .done
    . rcases State.step_eq_done_iff.1 hnext with ⟨spec, hspec⟩
      rcases reply_of_done hl hst hspec with ⟨hresponse, hreply⟩
      rw [hspec] at hs ⊢
      rcases hs.of_done with ⟨rfl, rfl⟩
      rw [hreply, hresponse]
      rfl
    . have htail := ih hnext
      rw [reply_of_open hl hnext]
      dsimp only
      unfold Session.after at htail ⊢
      rw [Session.mk.injEq] at htail ⊢
      rcases htail with ⟨htranscript, hresult, hunread⟩
      refine ⟨?_, hresult, hunread⟩
      -- The mark in front of the next answer was written with the response.
      simp only [List.append_assoc]
      rw [htranscript]

theorem spelled (h : Course st lines answers rest)
    : ∃ taken, lines = taken ++ rest ∧ Spelled taken answers := by
  induction h with
  | done => exact ⟨[], rfl, .nil⟩
  | ended => exact ⟨[], rfl, .nil⟩
  | unreadable => exact ⟨[], rfl, .nil⟩
  | answered h hl hs ih =>
    rcases ih with ⟨taken, rfl, htaken⟩
    exact ⟨_ :: taken, rfl, .cons hl htaken⟩

theorem stops (h : Course st lines answers rest) (hopen : (st.run answers).step ≠ .done)
    : rest = [] ∨ ∃ l ls, rest = l :: ls ∧ Text.ofUtf8? l = none := by
  induction h with
  | done => exact absurd rfl hopen
  | ended => exact .inl rfl
  | unreadable h hl => exact .inr ⟨_, _, rfl, hl⟩
  | answered h hl hs ih => exact ih hopen

theorem append (h : Course st lines answers rest) (hdone : (st.run answers).step = .done)
    (more : List Bytes)
    : Course st (lines ++ more) answers (rest ++ more) := by
  induction h with
  | done => exact .done
  | ended h => exact absurd hdone h
  | unreadable h hl => exact absurd hdone h
  | answered h hl hs ih => exact .answered h hl (ih hdone)

theorem of_spelled {taken left : List Bytes} {given : List Text} (hgiven : Spelled taken given)
    (h : Course st (taken ++ left) answers rest)
    : st.run answers = st.run given ∧ (st.run given).step = .done ∨
        (st.run given).step ≠ .done ∧
          ∃ others, answers = given ++ others ∧ Course (st.run given) left others rest := by
  -- The interview may be over before all of the given answers are used up; it cannot stop earlier
  -- in any other way, because each of the lines is a text.
  induction hgiven generalizing st answers with
  | nil =>
    by_cases hst : st.step = .done
    . rcases State.step_eq_done_iff.1 hst with ⟨spec, rfl⟩
      left
      rw [State.run_done, State.run_done]
      exact ⟨rfl, rfl⟩
    . exact .inr ⟨hst, answers, rfl, h⟩
  | cons hl hls ih =>
    cases h with
    | done =>
      left
      rw [State.run_done, State.run_done]
      exact ⟨rfl, rfl⟩
    | unreadable h hl' =>
      rw [hl] at hl'
      cases hl'
    | answered h hl' hs =>
      rw [hl] at hl'
      cases hl'
      rcases ih hs with hrun | ⟨hopen, others, rfl, hleft⟩
      . exact .inl hrun
      . exact .inr ⟨hopen, others, rfl, hleft⟩

end Course

namespace Session

variable {k : Option Kind} {input : Bytes} {lines rest : List Bytes} {answers : List Text}

theorem start_step_ne_done (k : Option Kind) : (start k).step ≠ .done := by
  cases k <;> simp [start, State.step]

theorem hold_of_course (hlines : Lines input lines) (h : Course (start k) lines answers rest)
    : hold k input = ⟨(start k).transcript answers, ((start k).run answers).verdict rest,
        ((start k).run answers).unread rest⟩ := by
  have hresume := h.resume_eq (start_step_ne_done k)
  unfold hold
  rw [hlines.cutLines_eq]
  unfold after at hresume ⊢
  rw [mk.injEq] at hresume ⊢
  rcases hresume with ⟨htranscript, hresult, hunread⟩
  refine ⟨?_, hresult, hunread⟩
  unfold ask mark State.transcript
  rw [← htranscript]
  simp

def told (s : Session) : Except (List Link) Spec :=
  s.result.mapError fun b => (Failure.interview b).chain

end Session

theorem Step.label_injective {s t : Step} (h : s.label = t.label) : s = t := by
  cases s
  all_goals
    cases t
    all_goals first | rfl | exact absurd h (by decide)

theorem chain_interview_injective {b c : Breakdown}
    (h : (Failure.interview b).chain = (Failure.interview c).chain) : b = c := by
  cases b with
  | unreadable =>
    cases c with
    | unreadable => rfl
    | ended t => simp [Failure.chain] at h
  | ended s =>
    cases c with
    | unreadable => simp [Failure.chain] at h
    | ended t =>
      unfold Failure.chain at h
      have hwords := Link.words.inj (List.cons.inj h).1
      rw [List.append_cancel_right_eq, List.append_cancel_left_eq] at hwords
      rw [Step.label_injective hwords]

theorem Session.told_eq_ok_iff {s : Session} {spec : Spec}
    : s.told = .ok spec ↔ s.result = .ok spec :=
  Except.mapError_eq_ok_iff

theorem Session.told_eq_error_iff {s : Session} {b : Breakdown}
    : s.told = .error (Failure.interview b).chain ↔ s.result = .error b := by
  unfold told
  constructor
  . intro h
    cases hresult : s.result with
    | ok spec =>
      rw [hresult] at h
      cases h
    | error c =>
      rw [hresult, Except.mapError_error] at h
      rw [chain_interview_injective (Except.error.inj h)]
  . intro h
    rw [h]
    rfl

namespace Session

variable {k : Option Kind} {input more : Bytes} {lines : List Bytes} {spec : Spec}

theorem result_eq_ok_iff (hlines : Lines input lines)
    : (hold k input).result = .ok spec ↔
        ∃ taken left answers, lines = taken ++ left ∧ Spelled taken answers ∧
          ((start k).run answers).finish = some spec := by
  rcases exists_course (start k) lines with ⟨answers, rest, hcourse⟩
  rw [hold_of_course hlines hcourse]
  dsimp only
  rw [State.verdict_eq_ok_iff]
  constructor
  . intro h
    rcases hcourse.spelled with ⟨taken, htaken, hspelled⟩
    exact ⟨taken, rest, answers, htaken, hspelled, h⟩
  . intro h
    rcases h with ⟨taken, left, given, rfl, hgiven, hfinish⟩
    rcases hcourse.of_spelled hgiven with ⟨hrun, -⟩ | ⟨hopen, -⟩
    . rw [hrun]
      exact hfinish
    . rw [State.finish_eq_none_iff.2 hopen] at hfinish
      cases hfinish

theorem result_eq_unreadable_iff (hlines : Lines input lines)
    : (hold k input).result = .error .unreadable ↔
        ∃ taken l left answers, lines = taken ++ l :: left ∧ Spelled taken answers ∧
          Text.ofUtf8? l = none ∧ ((start k).run answers).step ≠ .done := by
  rcases exists_course (start k) lines with ⟨answers, rest, hcourse⟩
  rw [hold_of_course hlines hcourse]
  dsimp only
  rw [State.verdict_eq_unreadable_iff]
  constructor
  . intro h
    rcases h with ⟨hopen, hrest⟩
    rcases hcourse.spelled with ⟨taken, htaken, hspelled⟩
    rcases hcourse.stops hopen with hnil | ⟨l, left, rfl, hl⟩
    . exact absurd hnil hrest
    . exact ⟨taken, l, left, answers, htaken, hspelled, hl, hopen⟩
  . intro h
    rcases h with ⟨taken, l, left, given, rfl, hgiven, hl, hopen⟩
    rcases hcourse.of_spelled hgiven with ⟨-, hdone⟩ | ⟨-, others, rfl, hleft⟩
    . exact absurd hdone hopen
    . rcases hleft.of_unreadable hl with ⟨rfl, rfl⟩
      rw [List.append_nil]
      exact ⟨hopen, by simp⟩

theorem result_eq_ended_iff {step : Step} (hlines : Lines input lines)
    : (hold k input).result = .error (.ended step) ↔
        ∃ answers, Spelled lines answers ∧ ((start k).run answers).step = step ∧ step ≠ .done := by
  rcases exists_course (start k) lines with ⟨answers, rest, hcourse⟩
  rw [hold_of_course hlines hcourse]
  dsimp only
  rw [State.verdict_eq_ended_iff]
  constructor
  . intro h
    rcases h with ⟨hstep, hopen, rfl⟩
    rcases hcourse.spelled with ⟨taken, htaken, hspelled⟩
    rw [List.append_nil] at htaken
    subst htaken
    exact ⟨answers, hspelled, hstep, hopen⟩
  . intro h
    rcases h with ⟨given, hgiven, rfl, hopen⟩
    rw [← List.append_nil lines] at hcourse
    rcases hcourse.of_spelled hgiven with ⟨-, hdone⟩ | ⟨-, others, rfl, hleft⟩
    . exact absurd hdone hopen
    . rcases hleft.of_nil with ⟨rfl, rfl⟩
      rw [List.append_nil]
      exact ⟨rfl, hopen, rfl⟩

theorem hold_append (hresult : (hold k input).result = .ok spec)
    (hunread : (hold k input).unread = []) (hclosed : input.getLast? = some 0x0A)
    {left : List Bytes} (hleft : Lines more left)
    : hold k (input ++ more) = { hold k input with unread := left } := by
  have hlines := lines_cutLines input
  rcases exists_course (start k) (cutLines input) with ⟨answers, rest, hcourse⟩
  rw [hold_of_course hlines hcourse] at hresult hunread ⊢
  rw [State.verdict_eq_ok_iff] at hresult
  have hdone : ((start k).run answers).step = .done := by
    rw [← not_ne_iff, ← State.finish_eq_none_iff, hresult]
    simp
  rw [State.unread, if_pos hdone] at hunread
  subst hunread
  rw [hold_of_course (hlines.append hclosed hleft) (hcourse.append hdone left)]
  simp [State.verdict, hresult, State.unread, hdone]

end Session

/--
Holding an interview is running it on the lines of the input. It gives what the run finishes if it
is over after lines that are texts. Otherwise a line that is not a text is told, or the question
that is open when the input ends. What is written depends on the answers that come in. What comes
behind the line that ends the interview changes nothing and is left unread.
-/
theorem hold_refines_run (k : Option Kind) (input : Bytes) (lines : List Bytes)
    (hlines : Lines input lines)
    : (∀ spec, (Session.hold k input).told = .ok spec ↔
        ∃ taken left answers, lines = taken ++ left ∧ Spelled taken answers ∧
          ((start k).run answers).finish = some spec) ∧
      ((Session.hold k input).told = .error [.words "read answer", .input] ↔
        ∃ taken l left answers, lines = taken ++ l :: left ∧ Spelled taken answers ∧
          Text.ofUtf8? l = none ∧ ((start k).run answers).step ≠ .done) ∧
      (∀ step, (Session.hold k input).told =
          .error [.words ("input ended while waiting for an answer (" ++ step.label ++ ")")] ↔
        ∃ answers, Spelled lines answers ∧ ((start k).run answers).step = step ∧ step ≠ .done) ∧
      (∃ answers rest, Course (start k) lines answers rest ∧
        (Session.hold k input).transcript = (start k).transcript answers) ∧
      (∀ spec more, (Session.hold k input).result = .ok spec → (Session.hold k input).unread = [] →
        input.getLast? = some 0x0A →
        ∃ left, Lines more left ∧
          Session.hold k (input ++ more) = { Session.hold k input with unread := left }) := by
  refine ⟨?_, ?_, ?_, ?_, ?_⟩
  . intro spec
    rw [Session.told_eq_ok_iff, Session.result_eq_ok_iff hlines]
  . rw [← Session.result_eq_unreadable_iff hlines, ← Session.told_eq_error_iff]
    rfl
  . intro step
    rw [← Session.result_eq_ended_iff hlines, ← Session.told_eq_error_iff]
    rfl
  . rcases exists_course (start k) lines with ⟨answers, rest, hcourse⟩
    refine ⟨answers, rest, hcourse, ?_⟩
    rw [Session.hold_of_course hlines hcourse]
  . intro spec more hresult hunread hclosed
    refine ⟨cutLines more, lines_cutLines more, ?_⟩
    apply Session.hold_append hresult hunread hclosed (lines_cutLines more)

theorem hold_refines_run_arbiter
    : ((Session.hold (some .arbiter) [0x41, 0x0A, 0x0A, 0x0A]).told =
          .ok (.arbiter ⟨"A", none, defaultFields⟩) ∧
        ∃ left, Lines [0xFF, 0x0A] left ∧
          Session.hold (some .arbiter) ([0x41, 0x0A, 0x0A, 0x0A] ++ [0xFF, 0x0A]) =
            { Session.hold (some .arbiter) [0x41, 0x0A, 0x0A, 0x0A] with unread := left }) ∧
      (Session.hold (some .arbiter) [0x0A, 0xFF]).told =
        .error [.words "read answer", .input] ∧
      (Session.hold (some .arbiter) [0x41, 0x0A, 0x31]).told =
        .error [.words "input ended while waiting for an answer (AskBaseObligation)"] ∧
      (Session.hold (some .arbiter) [0x31, 0x0A, 0x41, 0x0A, 0x0A, 0x0A]).transcript = Text.unlines [
        "Creating new arbiter contract",
        "What's the contract name? We recommend it ends with 'Arbiter'. [PaymentArbiter]",
        "> \"1\" is not a valid contract name",
        "> What base obligation is it for? Leave blank for an obligation-generic arbiter.",
        "> What's the demand schema? Enter a solidity ABI without parentheses. ".toList ++
          "[address token, uint256 amount]",
        "> Generating contract..."] := by
  rcases hold_refines_run (some .arbiter) [0x41, 0x0A, 0x0A, 0x0A] _ (lines_cutLines _) with
    ⟨hover, -, -, -, hmore⟩
  rcases hold_refines_run (some .arbiter) [0x0A, 0xFF] _ (lines_cutLines _) with
    ⟨-, hunreadable, -⟩
  rcases hold_refines_run (some .arbiter) [0x41, 0x0A, 0x31] _ (lines_cutLines _) with
    ⟨-, -, hended, -⟩
  rcases hold_refines_run (some .arbiter) [0x31, 0x0A, 0x41, 0x0A, 0x0A, 0x0A] _
    (lines_cutLines _) with ⟨-, -, -, ⟨answers, rest, hcourse, htranscript⟩, -⟩
  refine ⟨⟨?_, ?_⟩, ?_, ?_, ?_⟩
  . rw [hover]
    refine ⟨_, [], ["A\n", "\n", "\n"], (List.append_nil _).symm, ?_, rfl⟩
    exact .cons rfl (.cons rfl (.cons rfl .nil))
  . exact hmore (.arbiter ⟨"A", none, defaultFields⟩) [0xFF, 0x0A] (by decide +kernel) rfl rfl
  . rw [hunreadable]
    exact ⟨[[0x0A]], [0xFF], [], ["\n"], rfl, .cons rfl .nil, rfl, by decide⟩
  . have hbase := (hended .base).2
      ⟨["A\n", "1"], .cons rfl (.cons rfl .nil), rfl, by decide⟩
    rw [hbase]
    rfl
  . have htaken : Course (start (some .arbiter)) [[0x31, 0x0A], [0x41, 0x0A], [0x0A], [0x0A]]
        ["1\n", "A\n", "\n", "\n"] [] := by
      apply Course.answered (by decide) rfl
      apply Course.answered (by decide) rfl
      apply Course.answered (by decide) rfl
      apply Course.answered (by decide) rfl
      exact .done
    rcases hcourse.deterministic htaken with ⟨rfl, -⟩
    have hrefused : (State.name .arbiter).response "1\n" =
        (Refusal.name "1").message ++ ['\n'] := rfl
    have hnamed : (State.name .arbiter).response "A\n" = (State.base "A").prompt ++ ['\n'] := rfl
    have hgeneric : (State.base "A").response "\n" =
        (State.arbiterDemand "A" none).prompt ++ ['\n'] := rfl
    have hdefault : (State.arbiterDemand "A" none).response "\n" = [] := rfl
    rw [htranscript]
    change (State.name .arbiter).prompt ++ '\n' ::
      ("> ".toList ++ (State.name .arbiter).response "1\n" ++
      ("> ".toList ++ (State.name .arbiter).response "A\n" ++
      ("> ".toList ++ (State.base "A").response "\n" ++
      ("> ".toList ++ (State.arbiterDemand "A" none).response "\n" ++ []))) ++
        "Generating contract...\n".toList) = _
    rw [hrefused, hnamed, hgeneric, hdefault]
    unfold Refusal.message State.prompt State.hint? State.question defaultName defaultFields
    unfold FieldList.signature
    repeat rw [String.toList_ofList]
    decide +kernel

end Interview

end Scaffold
