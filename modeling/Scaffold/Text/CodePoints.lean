/-!
This module contains sets of characters given by the code points at which membership changes.
-/

namespace Scaffold

/--
A set of code points, given by the ascending list of those at which membership flips: code points
below the first bound are outside, those from the first up to the second are inside, and so on.
-/
structure CodePointSet where
  bounds : List Nat

namespace CodePointSet

def covers (s : CodePointSet) (n : Nat) : Bool :=
  go s.bounds
where
  go : List Nat → Bool
    | [] => false
    | b :: bs => if n < b then false else !(go bs)

def contains (s : CodePointSet) (c : Char) : Bool :=
  s.covers c.toNat

end CodePointSet

end Scaffold
