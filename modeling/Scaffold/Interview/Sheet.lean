import Scaffold.Interview.Basic

/-!
This module contains the interview as it is kept on one sheet that is filled in place: which
question is open and what has been written down so far. Every entry has its place on the sheet from
the start, and nothing but the open question says which of them count.
-/

namespace Scaffold

namespace Interview

structure Sheet where
  step : Step
  kind : Option Kind := none
  name : Text := []
  dataFields : FieldList := []
  hasVerification : Bool := false
  demandFields : Option FieldList := none
  isRevocable : Bool := false
  termCount : UInt64 := 0
  base : Option Text := none
  deriving DecidableEq, Repr

/--
What is done with a sheet when an answer comes in. What has been written before a refusal stays
written.
-/
abbrev Entry (α : Type) := ExceptT Refusal (StateM Sheet) α

namespace Sheet

def start (kind : Option Kind) : Sheet where
  step := if kind.isSome then .name else .kind
  kind

def isObligation (s : Sheet) : Bool :=
  s.kind = some .obligation

def prompt (s : Sheet) : Text :=
  match s.step with
  | .kind => State.kind.prompt
  | .name => (State.name (if s.isObligation then .obligation else .arbiter)).prompt
  | .dataFields => (State.dataFields s.name).prompt
  | .verification => (State.verification s.name s.dataFields).prompt
  | .demandFields =>
    if s.isObligation then (State.obligationDemand s.name s.dataFields).prompt
    else (State.arbiterDemand s.name s.base).prompt
  | .revocable => (State.revocable s.name s.dataFields s.demandFields).prompt
  | .termCount => (State.termCount s.name s.dataFields s.demandFields).prompt
  | .base => (State.base s.name).prompt
  | .done => []

def spec (s : Sheet) : Kind → Spec
  | .obligation => .obligation {
      name := s.name
      hasVerification := s.hasVerification
      isRevocable := s.isRevocable
      termCount := s.termCount
      dataFields := s.dataFields
      demandFields := s.demandFields }
  | .arbiter => .arbiter {
      name := s.name
      base := s.base
      demandFields := s.demandFields.getD [] }

def finish (s : Sheet) : Option Spec :=
  if s.step = .done then s.kind.map s.spec else none

def enter {α : Type} (read : Except Refusal α) (write : α → Sheet → Sheet) (next : α → Step)
    : Entry Step := do
  let a ← read
  modify (write a)
  return next a

def fill (s : Sheet) (answer : Text) : Entry Step :=
  match s.step with
  | .kind => enter (readKind answer) (fun k s => { s with kind := some k }) fun _ => .name
  | .name =>
    enter (readName (if s.isObligation then .obligation else .arbiter) answer)
      (fun n s => { s with name := n })
      fun _ => if s.isObligation then .dataFields else .base
  | .dataFields =>
    enter (readFields defaultFields answer) (fun fs s => { s with dataFields := fs })
      fun _ => .verification
  | .verification =>
    enter (readYesNo answer) (fun yes s => { s with hasVerification := yes })
      fun yes => if yes then .demandFields else .revocable
  -- Either kind of contract comes to this question, and goes on from it in its own way.
  | .demandFields =>
    enter (readFields (if s.isObligation then s.dataFields else defaultFields) answer)
      (fun fs s => { s with demandFields := some fs })
      fun _ => if s.isObligation then .revocable else .done
  | .revocable =>
    enter (readYesNo answer) (fun yes s => { s with isRevocable := yes })
      fun yes => if yes then .termCount else .done
  | .termCount =>
    enter (readCount answer) (fun n s => { s with termCount := n }) fun _ => .done
  | .base =>
    enter (readBase s.name answer) (fun b s => { s with base := b }) fun _ => .demandFields
  | .done => throw .finished

def feed (s : Sheet) (line : Text) : Except Refusal Step × Sheet :=
  let entry : Entry Step := do
    let next ← s.fill line.trim
    modify fun s => { s with step := next }
    return next
  entry.run.run s

def run (s : Sheet) (lines : List Text) : Sheet :=
  lines.foldl (fun s line => (s.feed line).2) s

/--
Those of some answers that are accepted when they come in one after the other.
-/
def accepted (s : Sheet) : List Text → List Text
  | [] => []
  | line :: lines =>
    match s.feed line with
    | (.ok _, s') => line :: s'.accepted lines
    | (.error _, s') => s'.accepted lines

end Sheet

end Interview

end Scaffold
