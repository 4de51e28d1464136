import Scaffold.Text.Basic

/-!
This module contains arithmetic on words of 64 bits that notices when a result does not fit, and the
reading of decimal numbers with it, one digit after the other.
-/

namespace Scaffold

namespace Checked

/--
The sum, unless it does not fit. A sum that has been cut off is less than what was added to.
-/
def add? (a b : UInt64) : Option UInt64 :=
  if a + b < a then none else some (a + b)

/--
The product, unless it does not fit. Division takes a product that has been cut off to something
else.
-/
def mul? (a b : UInt64) : Option UInt64 :=
  if b = 0 ∨ a * b / b = a then some (a * b) else none

def digit (d : Char) : UInt64 :=
  UInt64.ofNat (d.toNat - '0'.toNat)

def pushDigit? (n : UInt64) (d : Char) : Option UInt64 :=
  if d.isDigit then do
    let shifted ← mul? n 10
    add? shifted (digit d)
  else none

/--
The number that a text stands for: digits, and a plus sign in front of them if one likes. A sign
alone is no number.
-/
def ofText? : Text → Option UInt64
  | [] => none
  | ['+'] => none
  | '+' :: s => s.foldlM pushDigit? 0
  | s => s.foldlM pushDigit? 0

end Checked

end Scaffold
