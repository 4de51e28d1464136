import Scaffold.Spec.Validity

/-!
This module contains the interview, in which a specification is put together from answers to
questions.

A state of the interview is the question that is asked, together with what the answers so far have
told. The questions about verification and about ending an obligation have a follow-up that is asked
only if the answer is yes.
-/

namespace Scaffold

namespace Interview

inductive State where
  | kind
  | name (kind : Kind)
  | dataFields (name : Text)
  | verification (name : Text) (dataFields : FieldList)
  | obligationDemand (name : Text) (dataFields : FieldList)
  | revocable (name : Text) (dataFields : FieldList) (demandFields : Option FieldList)
  | termCount (name : Text) (dataFields : FieldList) (demandFields : Option FieldList)
  | base (name : Text)
  | arbiterDemand (name : Text) (base : Option Text)
  | done (spec : Spec)
  deriving DecidableEq, Repr

inductive Step where
  | kind
  | name
  | dataFields
  | verification
  | demandFields
  | revocable
  | termCount
  | base
  | done
  deriving DecidableEq, Repr

inductive Refusal where
  | kind
  | name (answer : Text)
  | fields (cause : FieldListError)
  | yesNo
  | count (answer : Text)
  | finished
  deriving DecidableEq, Repr

def Refusal.message : Refusal → Text
  | kind => "Please choose [O]bligation or [A]rbiter"
  | name answer => answer.quoted ++ " is not a valid contract name"
  | fields cause => cause.message
  | yesNo => "Please answer y or n"
  | count answer => answer.quoted ++ " is not a non-negative whole number"
  | finished => "all questions have been answered"

def defaultName : Kind → Text
  | .obligation => "PaymentObligation"
  | .arbiter => "PaymentArbiter"

def defaultFields : FieldList :=
  [⟨"address", "token"⟩, ⟨"uint256", "amount"⟩]

def defaultTermCount : UInt64 := 1

def start : Option Kind → State
  | none => .kind
  | some k => .name k

namespace State

def step : State → Step
  | kind => .kind
  | name _ => .name
  | dataFields _ => .dataFields
  | verification _ _ => .verification
  | obligationDemand _ _ => .demandFields
  | revocable _ _ _ => .revocable
  | termCount _ _ _ => .termCount
  | base _ => .base
  | arbiterDemand _ _ => .demandFields
  | done _ => .done

def finish : State → Option Spec
  | done spec => some spec
  | _ => none

def question : State → Text
  | kind => "What kind of contract do you want to create?\n[O]bligation or [A]rbiter"
  | name .obligation =>
    "Creating new obligation contract\nWhat's the contract name? We recommend it ends with 'Obligation'."
  | name .arbiter =>
    "Creating new arbiter contract\nWhat's the contract name? We recommend it ends with 'Arbiter'."
  | dataFields _ => "What's the obligation data schema? Enter a solidity ABI without parentheses."
  | verification _ _ => "Will it have a default implementation of `checkObligation`?"
  | obligationDemand _ _ => "What's the demand schema for `checkObligation`?"
  | revocable _ _ _ =>
    "Will it be revocable? This includes normal finalization, like collecting a payment."
  | termCount _ _ _ =>
    "How many finalization terms will it have? This includes cancellation or completion."
  | base _ => "What base obligation is it for? Leave blank for an obligation-generic arbiter."
  | arbiterDemand _ _ => "What's the demand schema? Enter a solidity ABI without parentheses."
  | done _ => []

/--
What is shown in brackets behind the question: the answer that a blank line stands for, or the two
possible answers with the one that a blank line stands for as a capital.
-/
def hint? : State → Option Text
  | name k => some (defaultName k)
  | dataFields _ => some defaultFields.signature
  | verification _ _ => some "y/N"
  | obligationDemand _ fs => some (FieldList.signature fs)
  | revocable _ _ _ => some "y/N"
  | termCount _ _ _ => some (Nat.toDigits 10 defaultTermCount.toNat)
  | arbiterDemand _ _ => some defaultFields.signature
  | _ => none

def prompt (st : State) : Text :=
  match st.hint? with
  | none => st.question
  | some hint => st.question ++ " [" ++ hint ++ "]"

end State

def readKind : Text → Except Refusal Kind
  | 'o' :: _ => .ok .obligation
  | 'O' :: _ => .ok .obligation
  | 'a' :: _ => .ok .arbiter
  | 'A' :: _ => .ok .arbiter
  | _ => .error .kind

def readYesNo : Text → Except Refusal Bool
  | [] => .ok false
  | 'n' :: _ => .ok false
  | 'N' :: _ => .ok false
  | 'y' :: _ => .ok true
  | 'Y' :: _ => .ok true
  | _ => .error .yesNo

def readName (k : Kind) (answer : Text) : Except Refusal Text :=
  let name := if answer.isEmpty then defaultName k else answer
  if name.isIdentifier then .ok name else .error (.name name)

def readFields (suggested : FieldList) (answer : Text) : Except Refusal FieldList :=
  if answer.isEmpty then .ok suggested else (FieldList.parse answer).mapError .fields

/--
The value of a count: digits, with a plus sign in front if one likes, and few enough to fit
into 64 bits.
-/
def count? (answer : Text) : Option UInt64 :=
  let digits : Text := match answer with
    | '+' :: s => s
    | s => s
  let n := Nat.ofDigitChars 10 digits 0
  if !digits.isEmpty && digits.all Char.isDigit && n < UInt64.size then some (UInt64.ofNat n) else none

def readCount (answer : Text) : Except Refusal UInt64 :=
  if answer.isEmpty then .ok defaultTermCount
  else match count? answer with
    | some n => .ok n
    | none => .error (.count answer)

def readBase (own answer : Text) : Except Refusal (Option Text) :=
  if answer.isEmpty then .ok none
  else if isBaseName own answer then .ok (some answer)
  else .error (.name answer)

/--
The obligation that the answers describe. It has verification if there are demand fields, and it is
revocable if there is a count of ways to end it.
-/
def obligation (name : Text) (dataFields : FieldList) (demandFields : Option FieldList)
    (terms : Option UInt64) : Spec :=
  .obligation {
    name
    hasVerification := demandFields.isSome
    isRevocable := terms.isSome
    termCount := terms.getD 0
    dataFields
    demandFields }

namespace State

/--
Take an answer, of which white space at either end does not count. A refused answer leaves the
question open.
-/
def feed (st : State) (line : Text) : Except Refusal State :=
  let answer := line.trim
  match st with
  | kind => do
    let k ← readKind answer
    return .name k
  | name k => do
    let n ← readName k answer
    match k with
    | .obligation => return .dataFields n
    | .arbiter => return .base n
  | dataFields n => do
    let fs ← readFields defaultFields answer
    return .verification n fs
  | verification n fs => do
    if ← readYesNo answer then return .obligationDemand n fs else return .revocable n fs none
  | obligationDemand n fs => do
    let demand ← readFields fs answer
    return .revocable n fs (some demand)
  | revocable n fs demand => do
    if ← readYesNo answer then return .termCount n fs demand
    else return .done (obligation n fs demand none)
  | termCount n fs demand => do
    let terms ← readCount answer
    return .done (obligation n fs demand (some terms))
  | base n => do
    let o ← readBase n answer
    return .arbiterDemand n o
  | arbiterDemand n o => do
    let demand ← readFields defaultFields answer
    return .done (.arbiter ⟨n, o, demand⟩)
  | done _ => .error .finished

end State

end Interview

end Scaffold
