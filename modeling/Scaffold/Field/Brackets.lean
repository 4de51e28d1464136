import Scaffold.Text.Basic

/-!
This module contains the check that the brackets of a text are properly nested.
-/

namespace Scaffold

abbrev Brackets := List (Char × Char)

namespace Brackets

def ofTypes : Brackets :=
  [('(', ')'), ('[', ']')]

def closer? (bs : Brackets) (c : Char) : Option Char :=
  bs.lookup c

def isCloser (bs : Brackets) (c : Char) : Bool :=
  bs.any (fun b => b.2 = c)

/--
Whether a text closes every bracket that it opens, and before those the brackets in `due`, each at
its turn: the one opened last is closed first.
-/
def settles (bs : Brackets) : (due : List Char) → Text → Bool
  | due, [] => due.isEmpty
  | due, c :: s =>
    match bs.closer? c with
    | some d => settles bs (d :: due) s
    | none =>
      if bs.isCloser c then
        match due with
        | [] => false
        | d :: due => d = c && settles bs due s
      else settles bs due s

end Brackets

namespace Text

def isBalanced (s : Text) : Bool :=
  Brackets.settles .ofTypes [] s

end Text

end Scaffold
