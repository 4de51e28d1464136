import Scaffold.Text.Basic

/-!
This module contains JSON values.
-/

namespace Scaffold

/--
The value of a number, which is a double unless it is written as an integer and fits into 64 bits.
-/
inductive Number where
  | integer (i : Int)
  | float (x : Float)
  deriving Inhabited

/--
A JSON value. The members of an object keep their order.
-/
inductive Json where
  | null
  | bool (b : Bool)
  | number (n : Number)
  | string (s : Text)
  | array (items : List Json)
  | object (members : List (Text × Json))
  deriving Inhabited

end Scaffold
