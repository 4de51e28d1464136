import Scaffold.Field.Brackets

/-!
This module contains the check of brackets as one pass over a text, in which the brackets that are
open wait on a stack for the ones that close them. The pass stops at the first bracket that closes
another one than it should.
-/

namespace Scaffold

namespace Brackets

/--
The stack behind a character. An opening bracket is put on it, and a closing one takes the last
bracket off, which has to be the one that it closes.
-/
def pass? (bs : Brackets) (stack : List Char) (c : Char) : Option (List Char) :=
  if (bs.closer? c).isSome then some (c :: stack)
  else if bs.isCloser c then
    match stack with
    | [] => none
    | o :: stack => if bs.closer? o = some c then some stack else none
  else some stack

def passAll? (bs : Brackets) (stack : List Char) (s : Text) : Option (List Char) :=
  s.foldlM bs.pass? stack

end Brackets

end Scaffold
