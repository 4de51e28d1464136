import Scaffold.Text.Basic
import Scaffold.Text.CodePoints

/-!
This module contains white space: which characters it is made of, how it is trimmed from a text and
how it separates words.
-/

namespace Scaffold

/--
The characters with the Unicode property White_Space, twenty-five of them.
-/
def whiteSpace : CodePointSet where
  bounds :=
    [0x9, 0xe, 0x20, 0x21, 0x85, 0x86, 0xa0, 0xa1, 0x1680, 0x1681, 0x2000, 0x200b, 0x2028, 0x202a,
      0x202f, 0x2030, 0x205f, 0x2060, 0x3000, 0x3001]

def isSpace (c : Char) : Bool :=
  whiteSpace.contains c

namespace Text

def trimStart (s : Text) : Text :=
  s.dropWhile isSpace

def trimEnd (s : Text) : Text :=
  (s.reverse.dropWhile isSpace).reverse

def trim (s : Text) : Text :=
  trimEnd (trimStart s)

def isBlank (s : Text) : Bool :=
  s.all isSpace

def words (s : Text) : List Text :=
  (splitWhen isSpace s).filter (!·.isEmpty)

end Text

end Scaffold
