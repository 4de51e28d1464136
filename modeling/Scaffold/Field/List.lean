import Scaffold.Text.Space
import Scaffold.Text.Quoted
import Scaffold.Field.Basic
import Scaffold.Field.Brackets

/-!
This module contains the written form of field lists: how a list is read from a text such as
`address token, uint256 amount`, why it can be refused, how a single field is checked by the same
rules, and the signature in which a list is written down.
-/

namespace Scaffold

inductive EntryError where
  | blank
  | unbalanced (entry : Text)
  | unnamed (entry : Text)
  | badType (typeName : Text)
  | badName (name : Text)
  deriving DecidableEq, Repr

/--
Why a text is not a field list: it holds nothing at all, or one of its entries is not a field.
Entries are counted from zero.
-/
inductive FieldListError where
  | empty
  | entry (index : Nat) (cause : EntryError)
  deriving DecidableEq, Repr

namespace FieldListError

def message : FieldListError → Text
  | empty => "field list is empty"
  | entry index cause =>
    let field : Text := "field " ++ Nat.toDigits 10 index
    match cause with
    | .blank => field ++ " is empty (stray comma?)"
    | .unbalanced e =>
      field ++ " (" ++ e.quoted ++ ") has unbalanced brackets; types may not contain commas"
    | .unnamed e => field ++ " (" ++ e.quoted ++ ") needs a type and an identifier"
    | .badType t => field ++ " has an invalid type " ++ t.quoted
    | .badName n => field ++ " has an invalid identifier " ++ n.quoted

end FieldListError

namespace Field

/--
Read one entry of a field list. The last word is the name, the words before it are the type, and
white space between words counts as a single space.
-/
def ofEntry (entry : Text) : Except EntryError Field :=
  match entry.words.reverse with
  | [] => .error .blank
  | name :: before =>
    if !entry.isBalanced then .error (.unbalanced entry.trim)
    else if before.isEmpty then .error (.unnamed entry.trim)
    else
      let typeName : Text := Text.join [' '] before.reverse
      if !typeName.isTypeName then .error (.badType typeName)
      else if !name.isIdentifier then .error (.badName name)
      else .ok ⟨typeName, name⟩

/--
Check a field whose parts are given apart. Its declaration has to be read back as the same field, so
a type with unbalanced brackets or with white space other than single spaces is refused.
-/
def check (f : Field) : Except EntryError Unit :=
  if !f.name.isIdentifier then .error (.badName f.name)
  else do
    let g ← ofEntry f.declaration
    if g = f then .ok () else .error (.badType f.typeName)

end Field

namespace FieldList

def ofEntries (index : Nat) : List Text → Except FieldListError FieldList
  | [] => .ok []
  | e :: es =>
    match Field.ofEntry e with
    | .error cause => .error (.entry index cause)
    | .ok f => (ofEntries (index + 1) es).map (f :: ·)

def parse (raw : Text) : Except FieldListError FieldList :=
  if raw.isBlank then .error .empty
  else ofEntries 0 (raw.splitWhen (· = ','))

def check (index : Nat) : FieldList → Except FieldListError Unit
  | [] => .ok ()
  | f :: fs =>
    match f.check with
    | .error cause => .error (.entry index cause)
    | .ok () => check (index + 1) fs

def signature (fs : FieldList) : Text :=
  Text.join ", " (fs.map Field.declaration)

end FieldList

end Scaffold
