import Scaffold.Json.Quotation

/-!
This module contains scanned documents. A tree holds a document up to the first place where it
cannot be a JSON document, and marks that place; what is wrong with a document is found out by going
through its tree in reading order.

The same tree is gone through in two ways. Where a value is needed, it is read: numbers have to be
in range, strings have to be texts, and nesting is limited. Where it is not needed, it is skipped,
and only its form matters.
-/

namespace Scaffold

inductive Tree where
  | fault (h : Halt)
  | null
  | bool (b : Bool)
  | number (n : Numeral)
  /-- A number that the end of the document cuts off. -/
  | cutNumber
  | string (q : Quotation)
  | array (items : List Tree) (broken : Option Halt)
  | object (members : List (Quotation × Tree)) (broken : Option Halt)

namespace Tree

def close (broken : Option Halt) : Except Halt Unit :=
  match broken with
  | some h => .error h
  | none => .ok ()

def numberValue (n : Numeral) : Except Halt Number :=
  match n.value? with
  | some v => .ok v
  | none => .error .malformed

mutual

/--
Read a value with `room` for further levels of nesting.
-/
def value (room : Nat) : Tree → Except Halt Json
  | fault h => .error h
  | null => .ok .null
  | bool b => .ok (.bool b)
  | number n => (numberValue n).map .number
  | cutNumber => .error .truncated
  | string q => q.text.map .string
  | array items broken =>
    match room with
    | 0 => .error .malformed
    | room + 1 => do
      let vs ← values room items
      close broken
      return .array vs
  | object members broken =>
    match room with
    | 0 => .error .malformed
    | room + 1 => do
      let ms ← memberValues room members
      close broken
      return .object ms

def values (room : Nat) : List Tree → Except Halt (List Json)
  | [] => .ok []
  | t :: ts => do
    let v ← value room t
    let vs ← values room ts
    return v :: vs

def memberValues (room : Nat) : List (Quotation × Tree) → Except Halt (List (Text × Json))
  | [] => .ok []
  | (q, t) :: ms => do
    let k ← q.text
    let v ← value room t
    let vs ← memberValues room ms
    return (k, v) :: vs

end

mutual

def skip : Tree → Except Halt Unit
  | fault h => .error h
  | null => .ok ()
  | bool _ => .ok ()
  | number _ => .ok ()
  -- Unlike one that is read, a number that is skipped is broken if the document ends in it.
  | cutNumber => .error .malformed
  | string q => q.skip
  | array items broken => do
    skipItems items
    close broken
  | object members broken => do
    skipMembers members
    close broken

def skipItems : List Tree → Except Halt Unit
  | [] => .ok ()
  | t :: ts => do
    skip t
    skipItems ts

def skipMembers : List (Quotation × Tree) → Except Halt Unit
  | [] => .ok ()
  | (q, t) :: ms => do
    q.skip
    skip t
    skipMembers ms

end

end Tree

end Scaffold
