import Scaffold.Text.Basic

/-!
This module contains fields, the declarations of one value each from which structs and schemas are
made, and the character rules for their two parts.
-/

namespace Scaffold

/--
A field: a type and the name of the value of that type. Any two texts make a field; whether it can
be declared is decided by `Field.check`.
-/
structure Field where
  typeName : Text
  name : Text
  deriving DecidableEq, Repr, Inhabited

abbrev FieldList := List Field

def startsIdentifier (c : Char) : Bool :=
  c.isAlpha || c = '_' || c = '$'

def continuesIdentifier (c : Char) : Bool :=
  c.isAlphanum || c = '_' || c = '$'

/--
Whether a character can stand inside a type. A type may be qualified, indexed, applied or compared,
and may consist of several words.
-/
def continuesType (c : Char) : Bool :=
  continuesIdentifier c || c = '.' || c = '[' || c = ']' || c = '(' || c = ')' || c = '<' ||
    c = '>' || c = '=' || c = ' '

namespace Text

def isIdentifier : Text → Bool
  | [] => false
  | c :: s => startsIdentifier c && s.all continuesIdentifier

/--
Whether a text is made of the characters of a type and starts like an identifier. Whether there is
such a type is not asked.
-/
def isTypeName : Text → Bool
  | [] => false
  | c :: s => startsIdentifier c && s.all continuesType

end Text

namespace Field

def declaration (f : Field) : Text :=
  f.typeName ++ ' ' :: f.name

end Field

end Scaffold
