import Scaffold.Json.Tree

/-!
This module contains the scanner, which turns the glyphs of a document into its tree.
-/

namespace Scaffold

namespace Tree

def isGap : Glyph → Bool
  | .char c => c = ' ' || c = '\t' || c = '\n' || c = '\r'
  | .stray _ => false

def skipGap (gs : List Glyph) : List Glyph :=
  gs.dropWhile isGap

def stop (h : Halt) : Tree × Rest :=
  (.fault h, .error h)

def scanWord (t : Tree) : (word : Text) → List Glyph → Tree × Rest
  | [], gs => (t, .ok gs)
  | _ :: _, [] => stop .truncated
  | c :: cs, g :: gs => if g = .char c then scanWord t cs gs else stop .malformed

def scanNumber (negative : Bool) (gs : List Glyph) : Tree × Rest :=
  match Numeral.scan negative gs with
  | .done n rest => (.number n, .ok rest)
  | .cut => (.cutNumber, .error .truncated)
  | .malformed => stop .malformed

def brokenBy : Rest → Option Halt
  | .error h => some h
  | .ok _ => none

mutual

/--
Scan a value. A level of `fuel` is used for every value and for every item or member.
-/
def scanValue : (fuel : Nat) → List Glyph → Tree × Rest
  | 0, _ => stop .truncated
  | fuel + 1, gs =>
    match skipGap gs with
    | [] => stop .truncated
    | .stray _ :: _ => stop .malformed
    | .char 'n' :: gs => scanWord .null "ull" gs
    | .char 't' :: gs => scanWord (.bool true) "rue" gs
    | .char 'f' :: gs => scanWord (.bool false) "alse" gs
    | .char '"' :: gs => let (q, rest) := Quotation.scan gs; (.string q, rest)
    | .char '[' :: gs =>
      let (items, rest) := scanItems fuel true gs
      (.array items (brokenBy rest), rest)
    | .char '\x7b' :: gs =>
      let (members, rest) := scanMembers fuel true gs
      (.object members (brokenBy rest), rest)
    | .char '-' :: gs => scanNumber true gs
    | .char c :: gs => if c.isDigit then scanNumber false (.char c :: gs) else stop .malformed

def scanItems : (fuel : Nat) → (first : Bool) → List Glyph → List Tree × Rest
  | 0, _, _ => ([], .error .truncated)
  | fuel + 1, first, gs =>
    match skipGap gs with
    | [] => ([], .error .truncated)
    | .char ']' :: gs => ([], .ok gs)
    | g :: gs =>
      if first then scanItem fuel (g :: gs)
      else if g = .char ',' then scanItem fuel gs
      else ([], .error .malformed)

def scanItem : (fuel : Nat) → List Glyph → List Tree × Rest
  | 0, _ => ([], .error .truncated)
  | fuel + 1, gs =>
    match scanValue fuel gs with
    | (t, .error h) => ([t], .error h)
    | (t, .ok gs) => let (ts, rest) := scanItems fuel false gs; (t :: ts, rest)

def scanMembers : (fuel : Nat) → (first : Bool) → List Glyph → List (Quotation × Tree) × Rest
  | 0, _, _ => ([], .error .truncated)
  | fuel + 1, first, gs =>
    match skipGap gs with
    | [] => ([], .error .truncated)
    | .char '\x7d' :: gs => ([], .ok gs)
    | g :: gs =>
      if first then scanMember fuel (g :: gs)
      else if g = .char ',' then scanMember fuel gs
      else ([], .error .malformed)

def scanMember : (fuel : Nat) → List Glyph → List (Quotation × Tree) × Rest
  | 0, _ => ([], .error .truncated)
  | fuel + 1, gs =>
    match skipGap gs with
    | [] => ([], .error .truncated)
    | .char '"' :: gs =>
      match Quotation.scan gs with
      | (q, .error h) => ([(q, .fault h)], .error h)
      | (q, .ok gs) =>
        match skipGap gs with
        | [] => ([(q, .fault .truncated)], .error .truncated)
        | .char ':' :: gs =>
          match scanValue fuel gs with
          | (t, .error h) => ([(q, t)], .error h)
          | (t, .ok gs) => let (ms, rest) := scanMembers fuel false gs; ((q, t) :: ms, rest)
        | _ :: _ => ([(q, .fault .malformed)], .error .malformed)
    | _ :: _ => ([], .error .malformed)

end

/--
Scan the value at the start of a document. Between two levels of nesting and between two values at
least one glyph is used up, so the fuel is never what stops the scan.
-/
def scan (gs : List Glyph) : Tree × Rest :=
  scanValue (3 * gs.length + 3) gs

def atEnd : Rest → Except Halt Unit
  | .error h => .error h
  | .ok gs => if (skipGap gs).isEmpty then .ok () else .error .malformed

end Tree

end Scaffold
