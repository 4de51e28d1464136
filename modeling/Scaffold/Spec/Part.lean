import Scaffold.Spec.Mismatch

/-!
This module contains the parts of which records are made, and how each of them is read from a
document: texts, truth values, counts and field lists.
-/

namespace Scaffold

namespace Field

/--
A field in a document: an object with its two parts, where further members do not matter, or an
array of the two.
-/
def ofJson? : Json → Option Field
  | .array [.string t, .string n] => some ⟨t, n⟩
  | .object ms =>
    match ms.filter (fun m => m.1 = typeKey), ms.filter (fun m => m.1 = nameKey) with
    | [(_, .string t)], [(_, .string n)] => some ⟨t, n⟩
    | _, _ => none
  | _ => none
where
  typeKey : Text := "type_name"
  nameKey : Text := "identifier"

def toJson (f : Field) : Json :=
  .object [(ofJson?.typeKey, .string f.typeName), (ofJson?.nameKey, .string f.name)]

end Field

namespace FieldList

/--
A field list in a document: its written form, or an array of fields. Those of an array are taken as
they are.
-/
def ofJson : Json → Except Mismatch FieldList
  | .string raw => (parse raw).mapError .badFields
  | .array items =>
    match items.mapM Field.ofJson? with
    | some fs => .ok fs
    | none => .error .noFields
  | _ => .error .noFields

def toJson (fs : FieldList) : Json :=
  .array (fs.map Field.toJson)

end FieldList

namespace Tree

/--
How deep the value of a part may be nested, which is one level less than a document.
-/
def partRoom : Nat := 126

def asText : Tree → Except DocumentFault Text
  | string q => q.text.mapError .unreadable
  | t => t.refuse "a string"

def asFlag : Tree → Except DocumentFault Bool
  | bool b => .ok b
  | t => t.refuse "a boolean"

def asCount (t : Tree) : Except DocumentFault UInt64 := do
  match ← t.found.mapError .unreadable with
  | .number (.integer i) =>
    if 0 ≤ i then .ok (UInt64.ofNat i.toNat)
    else .error (.unfit (.wrongValue (.number (.integer i)) "usize"))
  | f => .error (.unfit (.wrongType f "usize"))

def asFields (t : Tree) : Except DocumentFault FieldList := do
  let v ← (t.value partRoom).mapError .unreadable
  (FieldList.ofJson v).mapError .unfit

def asOption {α : Type} (read : Tree → Except DocumentFault α)
    : Tree → Except DocumentFault (Option α)
  | null => .ok none
  | t => (read t).map some

end Tree

end Scaffold
