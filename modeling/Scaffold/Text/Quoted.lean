import Scaffold.Text.Basic
import Scaffold.Text.Printable
import Scaffold.Text.Combining

/-!
This module contains the quoted form in which messages show a value that was given to the program.
-/

namespace Scaffold

namespace Text

/--
A character inside a quoted value. The quote and the backslash stand behind a backslash, the usual
control characters have a letter, and a character that would not show as itself is given by its
number in hexadecimal digits.
-/
def quoteChar (c : Char) : Text :=
  match c with
  | '"' => "\\\""
  | '\\' => "\\\\"
  | '\x00' => "\\0"
  | '\t' => "\\t"
  | '\r' => "\\r"
  | '\n' => "\\n"
  | c =>
    if isPrintable c && !isCombining c then [c]
    else "\\u\x7b".toList ++ Nat.toDigits 16 c.toNat ++ ['}']

def quoted (s : Text) : Text :=
  '"' :: s.flatMap quoteChar ++ ['"']

end Text

end Scaffold
