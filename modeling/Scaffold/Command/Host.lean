import Scaffold.Command.Failure

/-!
This module contains what a run needs of the machine it runs on, and the machine that is described
by a value: a tree of files, what can be read from the terminal, and what has been written to it.
-/

namespace Scaffold

/--
What a run needs of its surroundings. Operations on files answer with the reason if they fail.
-/
class Host (m : Type → Type) where
  readFile : Path → m (Except FileFault Bytes)
  writeFile : Path → Bytes → m (Except FileFault Unit)
  makeDirectories : Path → m (Except FileFault Unit)
  isPresent : Path → m Bool
  interview : Option Kind → m (Except Interview.Breakdown Spec)
  report : Text → m Unit
  print : Text → m Unit

structure World where
  files : FileTree
  input : Bytes
  /-- What has been written as a result. -/
  output : Text
  /-- What has been written to the user. -/
  messages : Text

namespace World

def ofFiles (files : FileTree) (input : Bytes) : World :=
  ⟨files, input, [], []⟩

end World

abbrev Simulation := EStateM Failure World

instance : Host Simulation where
  readFile p := do
    return (← get).files.read p
  writeFile p content := do
    let w ← get
    match w.files.write p content with
    | .ok files => do
      set { w with files }
      return .ok ()
    | .error f => return .error f
  makeDirectories p := do
    let w ← get
    let (files, result) := w.files.makeDirectories p
    set { w with files }
    return result
  isPresent p := do
    return (← get).files.isPresent p
  interview kind := do
    let w ← get
    let session := Interview.Session.hold kind w.input
    set { w with
      input := session.unread.flatten
      messages := w.messages ++ session.transcript }
    return session.result
  report t := modify fun w => { w with messages := w.messages ++ t }
  print t := modify fun w => { w with output := w.output ++ t }

end Scaffold
