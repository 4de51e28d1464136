import Scaffold.Spec.Part
import Scaffold.Json.Scan

/-!
This module contains records in documents. A record is written as an object, or as an array of its
parts in the order in which they are declared. The parts are typed by their keys, so a record is a
function from keys to contents.
-/

namespace Scaffold

class RecordKey (κ : Type) where
  title : Text
  all : List κ
  mem_all : ∀ k, k ∈ all
  name : κ → Text
  nodup_names : (all.map name).Nodup
  Content : κ → Type
  read : (k : κ) → Tree → Except DocumentFault (Content k)
  default? : (k : κ) → Option (Content k)

open RecordKey

abbrev Record (κ : Type) [RecordKey κ] := (k : κ) → Content k

abbrev Draft (κ : Type) [RecordKey κ] := (k : κ) → Option (Content k)

variable {κ : Type} [DecidableEq κ] [RecordKey κ]

namespace Draft

def empty : Draft κ :=
  fun _ => none

def set (d : Draft κ) (k : κ) (v : Content k) : Draft κ :=
  fun j => if h : k = j then some (h ▸ v) else d j

@[simp]
theorem set_self (d : Draft κ) (k : κ) (v : Content k) : d.set k v k = some v := by
  simp [set]

theorem set_of_ne (d : Draft κ) {k j : κ} (v : Content k) (h : k ≠ j) : d.set k v j = d j := by
  simp [set, h]

def get? (d : Draft κ) (k : κ) : Option (Content k) :=
  (d k).or (default? k)

/--
The whole record. The first declared part that was left out and cannot be is missing.
-/
def complete (d : Draft κ) : Except DocumentFault (Record κ) :=
  match h : (all (κ := κ)).find? (fun k => (d.get? k).isNone) with
  | some k => .error (.unfit (.missing (name k)))
  | none => .ok fun k => (d.get? k).get (by
      simpa [Option.isSome_iff_ne_none] using List.find?_eq_none.1 h k (mem_all k))

end Draft

namespace Record

def key? (s : Text) : Option κ :=
  all.find? (fun k => name k = s)

/--
Read the members of an object in order. Members with other keys are skipped; a key that comes up
twice is refused before its value is looked at.
-/
def readMembers (d : Draft κ) : List (Quotation × Tree) → Except DocumentFault (Draft κ)
  | [] => .ok d
  | (q, t) :: ms => do
    let s ← q.text.mapError .unreadable
    match key? s with
    | none => do
      t.skip.mapError .unreadable
      readMembers d ms
    | some k =>
      if (d k).isSome then .error (.unfit (.duplicate s))
      else do
        let v ← read k t
        readMembers (d.set k v) ms

/--
Read the items of an array as the parts with the given keys, the first of which is declared at
`index`. Where the array ends early, every part that is left has to be one that can be left out.
Where it goes on, or is not closed, reading it stops.
-/
def readItems (broken : Option Halt) (index : Nat) (d : Draft κ)
    : List κ → List Tree → Except DocumentFault (Draft κ)
  | [], [] => (Tree.close broken).map (fun _ => d) |>.mapError .unreadable
  | [], _ :: _ => .error (.unreadable .malformed)
  | k :: ks, [] =>
    match broken, default? k with
    | some h, _ => .error (.unreadable h)
    | none, none => .error (.unfit (.tooShort index (title κ) (all (κ := κ)).length))
    | none, some _ => readItems broken (index + 1) d ks []
  | k :: ks, t :: ts => do
    let v ← read k t
    readItems broken (index + 1) (d.set k v) ks ts

def ofTree : Tree → Except DocumentFault (Record κ)
  | .object members broken => do
    let d ← readMembers Draft.empty members
    (Tree.close broken).mapError .unreadable
    d.complete
  | .array items broken => do
    let d ← readItems broken 0 Draft.empty all items
    d.complete
  | t => t.refuse (title κ)

def ofDocument (bytes : Bytes) : Except DocumentFault (Record κ) := do
  let (t, rest) := Tree.scan (Utf8.decode bytes)
  let r ← ofTree t
  (Tree.atEnd rest).mapError .unreadable
  return r

end Record

end Scaffold
