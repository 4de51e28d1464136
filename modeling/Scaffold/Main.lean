import Scaffold.Command.Arguments

/-!
This module contains the program: the real machine as a host, and what is said to the user when
there is nothing to run or a run has failed. Of an error in the arguments only its kind and the exit
code are told, not which argument is wrong.
-/

namespace Scaffold

namespace Program

abbrev Live := ExceptT Failure IO

/--
The reason that the system gives for a failed operation on files. Its number may come with the sign
turned.
-/
def faultOf (e : IO.Error) : FileFault :=
  match e with
  | .noFileOrDirectory _ _ _ => .notFound
  | .alreadyExists _ _ _ => .alreadyExists
  | .inappropriateType _ code _ =>
    if code = 20 ∨ code + 20 = 0 then .notADirectory
    else if code = 21 ∨ code + 21 = 0 then .isADirectory
    else .other (toString e).toList
  | e => .other (toString e).toList

def attempt {α : Type} (operation : IO α) : IO (Except FileFault α) := do
  try
    return .ok (← operation)
  catch e =>
    return .error (faultOf e)

def write (stream : IO.FS.Stream) (t : Text) : IO Unit := do
  stream.putStr (String.ofList t)
  stream.flush

/--
Read the bytes up to the next line feed, or to the end of the input.
-/
partial def readLine (input : IO.FS.Stream) (before : Bytes) : IO Bytes := do
  let bytes ← input.read 1
  if bytes.isEmpty then return before.reverse
  else
    let line := bytes.toList ++ before
    if bytes.toList = [0x0A] then return line.reverse
    else readLine input line

partial def resume (st : Interview.State) : IO (Except Interview.Breakdown Spec) := do
  let line ← readLine (← IO.getStdin) []
  if line.isEmpty then return .error (.ended st.step)
  else
    let (out, outcome) := Interview.reply st line
    write (← IO.getStderr) out
    match outcome with
    | .waiting st => resume st
    | .finished spec => return .ok spec
    | .unreadable => return .error .unreadable

instance : Host Live where
  readFile p := attempt do
    return (← IO.FS.readBinFile (String.ofList p)).toList
  writeFile p content := attempt (IO.FS.writeBinFile (String.ofList p) ⟨content.toArray⟩)
  makeDirectories p := attempt do
    if !p.isEmpty then IO.FS.createDirAll (String.ofList p)
  isPresent p := do
    match ← attempt (IO.FS.Handle.mk (String.ofList p) .read) with
    | .ok _ => return true
    | .error .notFound => return false
    | .error .notADirectory => return false
    | .error _ => return true
  interview kind := do
    let st := Interview.start kind
    write (← IO.getStderr) (Interview.ask st)
    resume st
  report t := do
    write (← IO.getStderr) t
  print t := do
    write (← IO.getStdout) t

def help : Text :=
  Text.unlines [
    "Scaffold obligation and arbiter contracts",
    "",
    "Usage: alkahest <COMMAND>",
    "",
    "Commands:",
    "  new   Create a new contract",
    "  help  Print this message or the help of the given subcommand(s)",
    "",
    "Options:",
    "  -h, --help     Print help",
    "  -V, --version  Print version",
    "",
    "Examples:",
    "  alkahest new                                 Ask which kind of contract to create",
    "  alkahest new obligation                      Answer prompts for an obligation",
    "  alkahest new arbiter --out-dir contracts     Write contracts/<Name>.sol",
    "  alkahest new obligation --spec payment.json  Generate from a JSON spec without prompts",
    "  alkahest new arbiter --save-spec arb.json    Keep the answers for a later --spec run"]

def helpOnNew : Text :=
  Text.unlines [
    "Create a new contract",
    "",
    "Usage: alkahest new [OPTIONS] [KIND]",
    "",
    "Arguments:",
    "  [KIND]  Contract kind; prompted for when omitted [possible values: obligation, arbiter]",
    "",
    "Options:",
    "      --spec <PATH>       Read the spec from a JSON file instead of prompting",
    "      --out-dir <DIR>     Write <Name>.sol into this directory instead of printing to stdout",
    "      --save-spec <PATH>  Also write the collected spec as JSON, reusable with --spec",
    "      --force             Overwrite an existing contract file",
    "  -h, --help              Print help"]

/--
What is said if the arguments do not ask for a run, and the exit code.
-/
def explain (args : List Text) : Usage → Text × UInt32
  | .help => (if "new".toList ∈ args.take 2 then helpOnNew else help, 0)
  | .version => ("alkahest 0.1.0\n", 0)
  | .nothing => (help, 2)
  | .unknownArgument => ("error: unexpected argument found\n", 2)
  | .unknownCommand => ("error: unrecognized subcommand\n", 2)
  | .invalidValue => ("error: invalid or missing value\n", 2)
  | .missingRequired => ("error: a required argument was not provided\n", 2)
  | .conflict => ("error: an argument cannot be used multiple times\n", 2)
  | .tooManyValues => ("error: unexpected value for an argument that takes none\n", 2)

def run (args : List Text) : IO UInt32 := do
  match New.parse args with
  | .error usage =>
    let (out, code) := explain args usage
    write (← if code = 0 then IO.getStdout else IO.getStderr) out
    return code
  | .ok new =>
    match ← (new.run : Live Unit).run with
    | .ok () => return 0
    | .error failure =>
      write (← IO.getStderr) failure.report
      return 1

end Program

end Scaffold

def main (args : List String) : IO UInt32 :=
  Scaffold.Program.run (args.map String.toList)
