import Scaffold.Text.Basic

/-!
This module contains paths: how a path is taken apart at its slashes, which path leads to the
directory that it lies in, and how a name is put behind it.
-/

namespace Scaffold

/--
A path as it is given. Different paths may lead to the same place.
-/
abbrev Path := Text

namespace Path

def segments (p : Path) : List Text :=
  p.splitWhen (· = '/')

def isIdle (s : Text) : Bool :=
  s.isEmpty || s = ['.']

def trimIdle (ss : List Text) : List Text :=
  (ss.reverse.dropWhile isIdle).reverse

/--
The path to the directory that a path lies in: what is left without the last segment that is not
idle. Idle segments at the end of either do not count, but a slash or a dot in front does. The empty
path and the root lie in no directory.
-/
def parent? (p : Path) : Option Path :=
  match p.segments with
  | [] => none
  | front :: rest =>
    let anchored := isIdle front
    let body := trimIdle (if anchored then rest else front :: rest)
    match body with
    | [] => if front.isEmpty then none else some []
    | _ :: _ =>
      let left := trimIdle body.dropLast
      if !anchored then some (Text.join ['/'] left)
      else if front.isEmpty ∧ left.isEmpty then some ['/']
      else some (Text.join ['/'] (front :: left))

/--
A name put behind a path, with a slash between them if there is none. A name that starts with a
slash leads to the same place from everywhere.
-/
def join (dir : Path) (name : Text) : Path :=
  if name.head? = some '/' then name
  else if dir.isEmpty ∨ dir.getLast? = some '/' then dir ++ name
  else dir ++ '/' :: name

def endsInSlash (p : Path) : Bool :=
  p.getLast? = some '/'

def steps (p : Path) : List Text :=
  p.segments.filter (!·.isEmpty)

/--
The steps of a path in two parts. The second part is empty, unless the path ends in dots: then it is
the last step in front of them and the dots.
-/
def wayAndGoal (p : Path) : List Text × List Text :=
  let backward := p.steps.reverse
  match backward.takeWhile (· = ['.']) with
  | [] => (p.steps, [])
  | dots =>
    let named := backward.dropWhile (· = ['.'])
    (named.tail.reverse, named.head?.toList ++ dots)

end Path

end Scaffold
