import Scaffold.Field.List
import Scaffold.Json.Print
import Scaffold.Json.Tree

/-!
This module contains the ways in which a document can fail to hold the record that is asked for.
-/

namespace Scaffold

/--
What was found where something else was expected. Arrays and objects are not looked into.
-/
inductive Found where
  | null
  | bool (b : Bool)
  | number (n : Number)
  | string (s : Text)
  | sequence
  | map

def Found.describe : Found → Text
  | null => "null"
  | bool b => "boolean `" ++ (if b then "true".toList else "false") ++ "`"
  | number n =>
    let sort : Text := match n with
      | .integer _ => "integer"
      | .float _ => "floating point"
    sort ++ " `" ++ Json.numberText n ++ "`"
  | string s => "string " ++ s.quoted
  | sequence => "sequence"
  | map => "map"

inductive Mismatch where
  | wrongType (found : Found) (expected : Text)
  | wrongValue (found : Found) (expected : Text)
  /-- An array ends where a part of the record has to come, counted from zero. -/
  | tooShort (index : Nat) (title : Text) (parts : Nat)
  | missing (key : Text)
  | duplicate (key : Text)
  | badFields (cause : FieldListError)
  | noFields

def Mismatch.message : Mismatch → Text
  | wrongType found expected => "invalid type: " ++ found.describe ++ ", expected " ++ expected
  | wrongValue found expected => "invalid value: " ++ found.describe ++ ", expected " ++ expected
  | tooShort index title parts =>
    "invalid length " ++ Nat.toDigits 10 index ++ ", expected " ++ title ++ " with " ++
      Nat.toDigits 10 parts ++ " elements"
  | missing key => "missing field `" ++ key ++ "`"
  | duplicate key => "duplicate field `" ++ key ++ "`"
  | badFields cause => cause.message
  | noFields => "data did not match any variant of untagged enum FieldsRepr"

inductive DocumentFault where
  | unreadable (h : Halt)
  | unfit (m : Mismatch)

namespace Tree

def found : Tree → Except Halt Found
  | fault h => .error h
  | null => .ok .null
  | bool b => .ok (.bool b)
  | number n => (numberValue n).map .number
  | cutNumber => .error .truncated
  | string q => q.text.map .string
  | array _ _ => .ok .sequence
  | object _ _ => .ok .map

def refuse {α : Type} (expected : Text) (t : Tree) : Except DocumentFault α :=
  match t.found with
  | .error h => .error (.unreadable h)
  | .ok f => .error (.unfit (.wrongType f expected))

end Tree

end Scaffold
