import Scaffold.Json.Numeral

/-!
This module contains strings in a JSON document: how they are scanned, and which text they stand
for, if they stand for one.
-/

namespace Scaffold

inductive Piece where
  | plain (g : Glyph)
  /-- An escape with four hexadecimal digits, which gives a 16-bit unit of a text. -/
  | unit (n : Nat)
  deriving DecidableEq, Repr

structure Quotation where
  pieces : List Piece
  broken : Option Halt
  deriving DecidableEq, Repr

namespace Quotation

def unescape? : Char → Option Char
  | '"' => some '"'
  | '\\' => some '\\'
  | '/' => some '/'
  | 'b' => some '\x08'
  | 'f' => some '\x0c'
  | 'n' => some '\n'
  | 'r' => some '\r'
  | 't' => some '\t'
  | _ => none

def hexDigit? : Glyph → Option Nat
  | .char c =>
    if '0' ≤ c ∧ c ≤ '9' then some (c.toNat - '0'.toNat)
    else if 'a' ≤ c ∧ c ≤ 'f' then some (c.toNat - 'a'.toNat + 10)
    else if 'A' ≤ c ∧ c ≤ 'F' then some (c.toNat - 'A'.toNat + 10)
    else none
  | .stray _ => none

def unit? (a b c d : Glyph) : Option Nat := do
  return (((← hexDigit? a) * 16 + (← hexDigit? b)) * 16 + (← hexDigit? c)) * 16 + (← hexDigit? d)

/--
Why an escape with a number fails: if fewer than four bytes are left, the document ends too early.
-/
def unitFault (gs : List Glyph) : Halt :=
  if gs.foldl (fun n g => n + g.size) 0 < 4 then .truncated else .malformed

def stop (h : Halt) : Quotation × Rest :=
  (⟨[], some h⟩, .error h)

def consPiece (p : Piece) (q : Quotation × Rest) : Quotation × Rest :=
  ({ q.1 with pieces := p :: q.1.pieces }, q.2)

def scan : List Glyph → Quotation × Rest
  | [] => stop .truncated
  | .char '"' :: gs => (⟨[], none⟩, .ok gs)
  | .char '\\' :: [] => stop .truncated
  | .char '\\' :: .char 'u' :: a :: b :: c :: d :: gs =>
    match unit? a b c d with
    | some n => consPiece (.unit n) (scan gs)
    | none => stop .malformed
  -- Fewer than four glyphs can be four bytes all the same.
  | .char '\\' :: .char 'u' :: gs => stop (unitFault gs)
  | .char '\\' :: .char e :: gs =>
    match unescape? e with
    | some c => consPiece (.plain (.char c)) (scan gs)
    | none => stop .malformed
  | .char '\\' :: .stray _ :: _ => stop .malformed
  | .char c :: gs => if c.toNat < 0x20 then stop .malformed else consPiece (.plain (.char c)) (scan gs)
  | .stray bs :: gs => consPiece (.plain (.stray bs)) (scan gs)

def isLeading (n : Nat) : Bool :=
  0xD800 ≤ n && n ≤ 0xDBFF

def isTrailing (n : Nat) : Bool :=
  0xDC00 ≤ n && n ≤ 0xDFFF

/--
The glyphs that parts of a string stand for. Two halves of a character have to follow each other;
where the second one is missing, `broken` tells whether the string goes on at all.
-/
def glyphs (broken : Option Halt) : List Piece → Except Halt (List Glyph)
  | [] => match broken with
    | some h => .error h
    | none => .ok []
  | .plain g :: ps => (glyphs broken ps).map (g :: ·)
  | .unit n :: ps =>
    if isTrailing n then .error .malformed
    else if isLeading n then
      match ps with
      | .unit m :: ps =>
        if isTrailing m then
          let c := Char.ofNat (0x10000 + (n - 0xD800) * 0x400 + (m - 0xDC00))
          (glyphs broken ps).map (.char c :: ·)
        else .error .malformed
      | .plain _ :: _ => .error .malformed
      | [] => .error (broken.getD .malformed)
    else (glyphs broken ps).map (.char (Char.ofNat n) :: ·)

/--
The text of a string. Whether its bytes are characters is asked only when it is complete.
-/
def text (q : Quotation) : Except Halt Text := do
  let gs ← glyphs q.broken q.pieces
  match gs.mapM Glyph.char? with
  | some s => .ok s
  | none => .error .malformed

def skip (q : Quotation) : Except Halt Unit :=
  match q.broken with
  | some h => .error h
  | none => .ok ()

end Quotation

end Scaffold
