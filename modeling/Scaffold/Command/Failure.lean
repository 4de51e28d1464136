import Scaffold.File.Tree
import Scaffold.Interview.Session
import Scaffold.Spec.Document

/-!
This module contains the ways in which a run can fail, and how a failure is told: from what was
being done down to the cause.
-/

namespace Scaffold

inductive Failure where
  | create (path : Path) (cause : FileFault)
  | write (path : Path) (cause : FileFault)
  | occupied (path : Path)
  | read (path : Path) (cause : FileFault)
  | document (path : Path) (cause : DocumentFault)
  | invalidFile (path : Path) (cause : SpecError)
  | invalid (name : Text) (cause : SpecError)
  | kindNeeded
  | interview (cause : Interview.Breakdown)

inductive Link where
  | words (t : Text)
  | file (cause : FileFault)
  | document (cause : DocumentFault)
  /-- A line that is not a text. -/
  | input

def FileFault.message : FileFault → Text
  | notFound => "No such file or directory (os error 2)"
  | alreadyExists => "File exists (os error 17)"
  | notADirectory => "Not a directory (os error 20)"
  | isADirectory => "Is a directory (os error 21)"
  | other reason => reason

/--
Where in a document the fault lies is not told, and of a document that cannot be read no more than
whether it ends too early.
-/
def DocumentFault.message : DocumentFault → Text
  | unreadable .malformed => "the document is not valid JSON"
  | unreadable .truncated => "the document ends too early"
  | unfit m => m.message

def Link.message : Link → Text
  | words t => t
  | file cause => cause.message
  | document cause => cause.message
  | input => "stream did not contain valid UTF-8"

def Interview.Step.label : Interview.Step → Text
  | kind => "ChooseKind"
  | name => "AskName"
  | dataFields => "AskFields"
  | verification => "AskVerification"
  | demandFields => "AskDemandFields"
  | revocable => "AskRevocable"
  | termCount => "AskTermCount"
  | base => "AskBaseObligation"
  | done => "Done"

/--
The account of what is wrong with a specification. A field list has a cause of its own.
-/
def SpecError.chain : SpecError → List Link
  | .fields cause => [.words (SpecError.fields cause).message, .words cause.message]
  | e => [.words e.message]

namespace Failure

def chain : Failure → List Link
  | create path cause => [.words ("create " ++ path), .file cause]
  | write path cause => [.words ("write " ++ path), .file cause]
  | occupied path => [.words (path ++ " already exists (use --force to overwrite)")]
  | read path cause => [.words ("read spec " ++ path), .file cause]
  | document path cause => [.words ("parse spec JSON " ++ path), .document cause]
  | invalidFile path cause => .words ("invalid spec " ++ path) :: cause.chain
  | invalid name cause => .words ("invalid spec for " ++ name) :: cause.chain
  | kindNeeded => [.words "--spec needs a contract kind (obligation or arbiter)"]
  | interview .unreadable => [.words "read answer", .input]
  | interview (.ended step) =>
    [.words ("input ended while waiting for an answer (" ++ step.label ++ ")")]

/--
A cause in a report. Further lines of its message are indented as far as the first one.
-/
def causeLine (number : Option Nat) (cause : Link) : Text :=
  let margin : Text := match number with
    | none => "    "
    | some n => "    " ++ Nat.toDigits 10 n ++ ": "
  margin ++ Text.join ('\n' :: margin.map fun _ => ' ') (Text.splitWhen (· = '\n') cause.message)

/--
What was being done, and behind it the causes, which are numbered if there are several.
-/
def report (f : Failure) : Text :=
  match f.chain with
  | [] => []
  | [link] => "Error: " ++ link.message ++ ['\n']
  | [link, cause] =>
    "Error: " ++ link.message ++ "\n\nCaused by:\n" ++ causeLine none cause ++ ['\n']
  | link :: causes =>
    let numbered := causes.mapIdx fun n cause => causeLine (some n) cause
    "Error: " ++ link.message ++ "\n\nCaused by:\n" ++ Text.unlines numbered

end Failure

end Scaffold
