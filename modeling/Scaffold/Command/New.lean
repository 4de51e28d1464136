import Scaffold.Command.Host
import Scaffold.Solidity.Arbiter

/-!
This module contains the run that makes a new contract: where its specification comes from, and
where the specification and the source go to.
-/

namespace Scaffold

structure New where
  kind : Option Kind
  /-- The file to read the specification from. Without one there is an interview. -/
  spec : Option Path
  /-- The directory to write the contract into. Without one it is printed. -/
  outDir : Option Path
  saveSpec : Option Path
  force : Bool
  deriving DecidableEq, Repr

section

variable {m : Type → Type} [Monad m] [MonadExceptOf Failure m] [Host m]

def orFail {ε α : Type} (reason : ε → Failure) : Except ε α → m α
  | .ok a => pure a
  | .error e => throw (reason e)

def readSpecFile (kind : Kind) (path : Path) : m Spec := do
  let bytes ← orFail (.read path) (← Host.readFile path)
  let spec ← orFail (.document path) (Spec.ofDocument bytes kind)
  orFail (.invalidFile path) spec.validate
  return spec

def writeSpecFile (path : Path) (spec : Spec) : m Unit := do
  match path.parent? with
  | some dir =>
    -- The empty path leads to the directory that the program works in.
    if !dir.isEmpty then orFail (.create dir) (← Host.makeDirectories dir)
  | none => pure ()
  orFail (.write path) (← Host.writeFile path (Utf8.encode spec.document))

/--
Write the source of a contract into a directory, which is made if it is missing. The path of the
file is given back. A contract that is there already is overwritten only by force.
-/
def writeContractFile (outDir : Path) (name source : Text) (force : Bool) : m Path := do
  orFail (.create outDir) (← Host.makeDirectories outDir)
  let path := Path.join outDir (Solidity.fileName name)
  if (← Host.isPresent path) && !force then throw (.occupied path)
  orFail (.write path) (← Host.writeFile path (Utf8.encode source))
  return path

namespace New

def collect (a : New) : m Spec := do
  match a.spec, a.kind with
  | none, kind => orFail .interview (← Host.interview kind)
  | some _, none => throw .kindNeeded
  | some path, some kind => readSpecFile kind path

def run (a : New) : m Unit := do
  let spec ← a.collect
  orFail (.invalid spec.name) spec.validate
  -- The specification is kept even if the contract cannot be written afterwards.
  match a.saveSpec with
  | some path => do
    writeSpecFile path spec
    Host.report ("Saved spec to " ++ path ++ ['\n'])
  | none => pure ()
  match a.outDir with
  | some dir => do
    let path ← writeContractFile dir spec.name spec.source a.force
    Host.report ("Wrote " ++ path ++ ['\n'])
  | none => Host.print spec.source

end New

end

end Scaffold
