import Scaffold.Json.Basic
import Scaffold.Text.Utf8

/-!
This module contains numbers in a JSON document: how they are cut out of it, and which value they
stand for.
-/

namespace Scaffold

inductive Halt where
  | malformed
  | truncated
  deriving DecidableEq, Repr

abbrev Rest := Except Halt (List Glyph)

structure Numeral where
  negative : Bool
  whole : Text
  fraction : Text
  exponent : Option Int
  deriving DecidableEq, Repr

inductive Numeral.Scan where
  | done (n : Numeral) (rest : List Glyph)
  | cut
  | malformed

namespace Numeral

def digit? : Glyph → Option Char
  | .char c => if c.isDigit then some c else none
  | .stray _ => none

def takeDigits : List Glyph → Text × List Glyph
  | [] => ([], [])
  | g :: gs =>
    match digit? g with
    | none => ([], g :: gs)
    | some c => let (ds, rest) := takeDigits gs; (c :: ds, rest)

def scanDigits (gs : List Glyph) (next : Text → List Glyph → Scan) : Scan :=
  match takeDigits gs with
  | ([], []) => .cut
  | ([], _ :: _) => .malformed
  | (ds, rest) => next ds rest

def takeSign : List Glyph → Bool × List Glyph
  | .char '+' :: gs => (false, gs)
  | .char '-' :: gs => (true, gs)
  | gs => (false, gs)

def scanExponent (negative : Bool) (whole fraction : Text) (gs : List Glyph) : Scan :=
  let marked (gs : List Glyph) : Scan :=
    let (below, gs) := takeSign gs
    scanDigits gs fun ds rest =>
      let n : Int := Nat.ofDigitChars 10 ds 0
      .done ⟨negative, whole, fraction, some (if below then -n else n)⟩ rest
  match gs with
  | .char 'e' :: gs => marked gs
  | .char 'E' :: gs => marked gs
  | gs => .done ⟨negative, whole, fraction, none⟩ gs

/--
Scan a number behind its sign. A zero in front is the only digit in front of the point.
-/
def scan (negative : Bool) (gs : List Glyph) : Scan :=
  scanDigits gs fun whole gs =>
    if whole.head? = some '0' ∧ whole.length ≠ 1 then .malformed
    else match gs with
      | .char '.' :: gs => scanDigits gs fun fraction gs => scanExponent negative whole fraction gs
      | gs => scanExponent negative whole [] gs

/--
Read digits into `m` as long as it fits into 64 bits; what is left over comes second.
-/
def absorb (m : Nat) : Text → Nat × Text
  | [] => (m, [])
  | d :: ds =>
    let n := 10 * m + (d.toNat - '0'.toNat)
    if n < UInt64.size then absorb n ds else (m, d :: ds)

/--
Divide by a power of ten that may be out of range itself: as long as it is, by the largest one that
is not.
-/
def shrink (x : Float) (n : Nat) : Float :=
  if n ≤ 308 then x / Float.ofScientific 1 false n
  else if x == 0 then x
  else shrink (x / Float.ofScientific 1 false 308) (n - 308)
termination_by n

def scaled? (m : Nat) (e : Int) : Option Float :=
  if e < 0 then some (shrink (Float.ofNat m) e.natAbs)
  else if e ≤ 308 then
    let x := Float.ofNat m * Float.ofScientific 1 false e.toNat
    if x.isInf then none else some x
  else if m = 0 then some 0 else none

/--
The value of a number as a double. As many digits count as fit into 64 bits; further ones in front
of the point only raise the exponent, and further ones behind it are dropped.
-/
def float? (n : Numeral) : Option Float :=
  let (m, spare) := absorb 0 n.whole
  let (m, dropped) := absorb m n.fraction
  let places : Int := n.fraction.length - dropped.length
  (scaled? m (spare.length - places + n.exponent.getD 0)).map fun x => if n.negative then -x else x

/--
The value of a number, unless it is out of range: an integer if it is written as one and fits into
64 bits, otherwise a double. Zero has a sign only as a double.
-/
def value? (n : Numeral) : Option Number :=
  let m := Nat.ofDigitChars 10 n.whole 0
  if n.fraction.isEmpty ∧ n.exponent.isNone ∧ n.negative = false ∧ m < UInt64.size then
    some (.integer m)
  else if n.fraction.isEmpty ∧ n.exponent.isNone ∧ n.negative ∧ 0 < m ∧ 2 * m ≤ UInt64.size then
    some (.integer (-m))
  else n.float?.map .float

end Numeral

end Scaffold
