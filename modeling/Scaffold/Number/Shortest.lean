import Scaffold.Text.Basic

/-!
This module contains the text of a floating point number: the fewest decimal digits that are read
back as the same number, and where the decimal point and the exponent stand.
-/

namespace Scaffold

structure Binary where
  mantissa : Nat
  exponent : Int
  /-- Whether the next smaller number is only half as far away as the next larger one. -/
  narrowBelow : Bool

namespace Binary

def ofBits (bits : UInt64) : Binary :=
  let e := ((bits >>> 52) &&& 0x7FF).toNat
  let f := (bits &&& 0xFFFFFFFFFFFFF).toNat
  if e = 0 then ⟨f, -1074, false⟩ else ⟨0x10000000000000 + f, (e : Int) - 1075, f = 0 && 1 < e⟩

end Binary

structure Decimal where
  digits : Nat
  exponent : Int
  deriving DecidableEq, Repr

namespace Decimal

def compareWith (d : Decimal) (m : Nat) (e : Int) : Ordering :=
  compare ((d.digits * Nat.pow 10 d.exponent.toNat) <<< (-e).toNat)
    ((m * Nat.pow 10 (-d.exponent).toNat) <<< e.toNat)

/--
Whether a decimal number lies among those that are rounded to `x`: between the points half way to
the neighbours of `x`, and on one of these points if the mantissa is even.
-/
def readsBackAs (d : Decimal) (x : Binary) : Bool :=
  let low := if x.narrowBelow then 4 * x.mantissa - 1 else 4 * x.mantissa - 2
  let even := x.mantissa % 2 = 0
  let above := d.compareWith low (x.exponent - 2)
  let below := d.compareWith (4 * x.mantissa + 2) (x.exponent - 2)
  (above = .gt || (even && above = .eq)) && (below = .lt || (even && below = .eq))

def strip : (fuel : Nat) → Decimal → Decimal
  | 0, d => d
  | fuel + 1, d =>
    if d.digits ≠ 0 ∧ d.digits % 10 = 0 then strip fuel ⟨d.digits / 10, d.exponent + 1⟩ else d

end Decimal

namespace Binary

def quotient (x : Binary) : Nat × Nat :=
  (x.mantissa <<< x.exponent.toNat, 1 <<< (-x.exponent).toNat)

def scale (x : Binary) : Int :=
  let (num, den) := x.quotient
  if den ≤ num then ((Nat.toDigits 10 (num / den)).length : Int)
  else 1 - ((Nat.toDigits 10 ((den - 1) / num)).length : Int)

/--
The decimal number with the exponent `e` next to `x`, if one of the two that enclose `x` is read
back as `x`. Of two that are, the nearer one is taken, and of two equally near ones the even one.
-/
def onGrid? (x : Binary) (e : Int) : Option Decimal :=
  let (num, den) := x.quotient
  let num := num * Nat.pow 10 (-e).toNat
  let den := den * Nat.pow 10 e.toNat
  let low : Decimal := ⟨num / den, e⟩
  let high : Decimal := ⟨num / den + 1, e⟩
  match low.readsBackAs x, high.readsBackAs x with
  | false, false => none
  | true, false => some low
  | false, true => some high
  | true, true =>
    match compare (2 * (num % den)) den with
    | .lt => some low
    | .gt => some high
    | .eq => if low.digits % 2 = 0 then some low else some high

/--
The shortest decimal number that is read back as a positive `x`. Seventeen digits are always enough;
if they were not, the exact value would be given.
-/
def shortest (x : Binary) : Decimal :=
  let k := x.scale
  match (List.range 17).findSome? (fun n => x.onGrid? (k - (n + 1 : Nat))) with
  | some d => d.strip 20
  | none =>
    ⟨(x.mantissa * Nat.pow 5 (-x.exponent).toNat) <<< x.exponent.toNat, -(-x.exponent).toNat⟩

end Binary

/--
Digits and an exponent laid out: with a decimal point if the first digit stands for a power of ten
from `10 ^ -5` to `10 ^ 15`, otherwise as a number between one and ten with a signed exponent.
-/
def Decimal.layout (d : Decimal) : Text :=
  let ds := Nat.toDigits 10 d.digits
  let lead : Int := d.exponent + (ds.length - 1 : Nat)
  if -5 ≤ lead ∧ lead < 16 then
    if 0 ≤ d.exponent then ds ++ List.replicate d.exponent.toNat '0' ++ ".0"
    else if 0 ≤ lead then ds.take (lead.toNat + 1) ++ '.' :: ds.drop (lead.toNat + 1)
    else "0." ++ List.replicate (-lead - 1).toNat '0' ++ ds
  else
    let fraction : Text := if ds.length = 1 then [] else '.' :: ds.drop 1
    let sign : Char := if 0 ≤ lead then '+' else '-'
    ds.take 1 ++ fraction ++ ['e', sign] ++ Nat.toDigits 10 lead.natAbs

def floatText (x : Float) : Text :=
  let bits := x.toBits
  let sign : Text := if bits >>> 63 = 1 then "-" else []
  let b := Binary.ofBits bits
  let digits : Text := if b.mantissa = 0 then "0.0".toList else b.shortest.layout
  sign ++ digits

end Scaffold
