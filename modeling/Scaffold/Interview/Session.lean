import Scaffold.Interview.Basic
import Scaffold.Text.Utf8

/-!
This module contains the interview as it is held on a terminal: what is written for the user, and
how the lines that come in are taken as answers.
-/

namespace Scaffold

namespace Interview

/--
Cut bytes into lines, each with its line feed. What comes behind the last line feed is a line too,
unless it is empty.
-/
def cutLines : Bytes → List Bytes
  | [] => []
  | b :: s =>
    if b = 0x0A then [b] :: cutLines s
    else match cutLines s with
      | [] => [[b]]
      | l :: ls => (b :: l) :: ls

def mark : Text := "> "

def ask (st : State) : Text :=
  st.prompt ++ '\n' :: mark

inductive Outcome where
  | waiting (st : State)
  | finished (spec : Spec)
  | unreadable

/--
Take a line. What is written in reply is the next question, or why the answer was refused, in which
case the question is not repeated, or that the interview is over.
-/
def reply (st : State) (line : Bytes) : Text × Outcome :=
  match Text.ofUtf8? line with
  | none => ([], .unreadable)
  | some answer =>
    match st.feed answer with
    | .error refusal => (refusal.message ++ '\n' :: mark, .waiting st)
    | .ok (.done spec) => ("Generating contract...\n", .finished spec)
    | .ok st => (ask st, .waiting st)

inductive Breakdown where
  | unreadable
  | ended (step : Step)
  deriving DecidableEq, Repr

structure Session where
  transcript : Text
  result : Except Breakdown Spec
  unread : List Bytes

namespace Session

def after (out : Text) (s : Session) : Session :=
  { s with transcript := out ++ s.transcript }

def resume (st : State) : List Bytes → Session
  | [] => ⟨[], .error (.ended st.step), []⟩
  | l :: ls =>
    match reply st l with
    | (out, .waiting st) => (resume st ls).after out
    | (out, .finished spec) => ⟨out, .ok spec, ls⟩
    | (out, .unreadable) => ⟨out, .error .unreadable, ls⟩

def hold (kind : Option Kind) (input : Bytes) : Session :=
  (resume (start kind) (cutLines input)).after (ask (start kind))

end Session

end Interview

end Scaffold
