import Scaffold.Command.New

/-!
This module contains the command line: which arguments the program understands, and how they are
turned into what a run is asked to do.

An argument takes effect only when the next one that is known has come up, or at the end. A value
that stands apart from its option is kept back until then, so a mistake in it is noticed later than
an argument that is not known at all.
-/

namespace Scaffold

inductive Usage where
  | help
  | version
  | nothing
  | unknownArgument
  | unknownCommand
  | invalidValue
  | missingRequired
  | conflict
  | tooManyValues
  deriving DecidableEq, Repr

inductive Argument where
  | separator
  | long (name : Text) (value : Option Text)
  | short (letters : Text)
  | plain (word : Text)
  deriving DecidableEq, Repr

namespace Argument

def cutAtEquals : Text → Text × Option Text
  | [] => ([], none)
  | '=' :: s => ([], some s)
  | c :: s => let (name, value) := cutAtEquals s; (c :: name, value)

/--
A single dash is a word.
-/
def ofText : Text → Argument
  | ['-', '-'] => .separator
  | '-' :: '-' :: s => let (name, value) := cutAtEquals s; .long name value
  | ['-'] => .plain ['-']
  | '-' :: s => .short s
  | s => .plain s

end Argument

inductive Slot where
  | kind
  | spec
  | outDir
  | saveSpec
  deriving DecidableEq, Repr

namespace Slot

/--
The option with a certain name. The kind has none: it is a word by itself.
-/
def ofName? (name : Text) : Option Slot :=
  if name = "spec" then some spec
  else if name = "out-dir" then some outDir
  else if name = "save-spec" then some saveSpec
  else none

end Slot

def Kind.ofWord? (word : Text) : Option Kind :=
  if word = "obligation" then some .obligation
  else if word = "arbiter" then some .arbiter
  else none

/--
A value that has been given, but has not taken effect.
-/
inductive Pending where
  | nothing
  | value (slot : Slot) (word : Text)
  | awaited (slot : Slot)
  deriving DecidableEq, Repr

namespace New

def unspecified : New :=
  ⟨none, none, none, none, false⟩

def path (present : Option Path) (word : Text) : Except Usage (Option Path) :=
  if present.isSome then .error .conflict
  else if word.isEmpty then .error .invalidValue
  else .ok (some word)

def put (a : New) (slot : Slot) (word : Text) : Except Usage New :=
  match slot with
  | .kind =>
    match Kind.ofWord? word with
    | none => .error .invalidValue
    | kind => .ok { a with kind }
  | .spec => (path a.spec word).map fun spec => { a with spec }
  | .outDir => (path a.outDir word).map fun outDir => { a with outDir }
  | .saveSpec => (path a.saveSpec word).map fun saveSpec => { a with saveSpec }

def settle (a : New) : Pending → Except Usage New
  | .nothing => .ok a
  | .value slot word => a.put slot word
  | .awaited _ => .error .invalidValue

/--
What must be there as well: the kind of contract if a specification is read, and a directory if a
contract may be overwritten.
-/
def checkNeeds (a : New) : Except Usage New :=
  if a.spec.isSome ∧ a.kind.isNone ∨ a.force ∧ a.outDir.isNone then .error .missingRequired
  else .ok a

/--
Take a word that stands by itself, where only the kind of contract can stand. `filled` says whether
it has been given.
-/
def takeWord (a : New) (pending : Pending) (filled : Bool) (word : Text)
    : Except Usage (New × Pending) :=
  if filled then .error .unknownArgument
  else do
    let a ← a.settle pending
    return (a, .value .kind word)

def ofWords (a : New) (pending : Pending) (filled : Bool) : List Text → Except Usage New
  | [] => do
    let a ← a.settle pending
    a.checkNeeds
  | word :: words => do
    let (a, pending) ← a.takeWord pending filled word
    ofWords a pending true words

def takeLetters {α : Type} (a : New) (pending : Pending) : Text → Except Usage α
  | 'h' :: _ => do
    let _ ← a.settle pending
    .error .help
  | _ => .error .unknownArgument

def takeOption (a : New) (pending : Pending) (name : Text) (value : Option Text)
    : Except Usage (New × Pending) :=
  match Slot.ofName? name with
  | some slot => do
    let a ← a.settle pending
    match value with
    | some word => return (← a.put slot word, .nothing)
    | none => return (a, .awaited slot)
  | none =>
    -- A value that a flag cannot have is noticed before what is kept back takes effect.
    if name = "force" then
      if value.isSome then .error .tooManyValues
      else do
        let a ← a.settle pending
        if a.force then .error .conflict else return ({ a with force := true }, .nothing)
    else if name = "help" then
      if value.isSome then .error .tooManyValues
      else do
        let _ ← a.settle pending
        .error .help
    else .error .unknownArgument

/--
Take the arguments of a run. A word is the value of the option in front of it if that one waits for
a value.
-/
def ofArguments (a : New) (pending : Pending) (filled : Bool) : List Text → Except Usage New
  | [] => do
    let a ← a.settle pending
    a.checkNeeds
  | arg :: args =>
    match Argument.ofText arg with
    | .separator => ofWords a pending filled args
    | .long name value => do
      let (a, pending) ← a.takeOption pending name value
      ofArguments a pending filled args
    | .short letters => a.takeLetters pending letters
    | .plain word =>
      match pending with
      | .awaited slot => ofArguments a (.value slot word) filled args
      | pending => do
        let (a, pending) ← a.takeWord pending filled word
        ofArguments a pending true args

end New

namespace Usage

def isCommand (word : Text) : Bool :=
  word = "new" || word = "help"

def ofHelp : List Text → Usage
  | [] => .help
  | [word] => if isCommand word then .help else .unknownCommand
  | _ :: _ => .unknownCommand

def ofLetters : Text → Usage
  | 'h' :: _ => .help
  | 'V' :: _ => .version
  | _ => .unknownArgument

def ofLong (name : Text) (value : Option Text) : Usage :=
  if name = "help" then (if value.isSome then .tooManyValues else .help)
  else if name = "version" then (if value.isSome then .tooManyValues else .version)
  else .unknownArgument

def ofWords : List Text → Usage
  | [] => .nothing
  | word :: _ => if isCommand word then .unknownArgument else .unknownCommand

end Usage

def New.parse : List Text → Except Usage New
  | [] => .error .nothing
  | arg :: args =>
    match Argument.ofText arg with
    | .separator => .error (Usage.ofWords args)
    | .long name value => .error (Usage.ofLong name value)
    | .short letters => .error (Usage.ofLetters letters)
    | .plain word =>
      if word = "new" then New.unspecified.ofArguments .nothing false args
      else if word = "help" then .error (Usage.ofHelp args)
      else .error .unknownCommand

end Scaffold
