import Scaffold.Json.Basic
import Scaffold.Number.Shortest

/-!
This module contains the written form of JSON values, with one member or item on a line.
-/

namespace Scaffold

namespace Json

def escapeChar (c : Char) : Text :=
  match c with
  | '"' => "\\\""
  | '\\' => "\\\\"
  | '\x08' => "\\b"
  | '\x0c' => "\\f"
  | '\n' => "\\n"
  | '\r' => "\\r"
  | '\t' => "\\t"
  | c =>
    if c.toNat < 0x20 then
      "\\u00".toList ++ [(c.toNat / 16).digitChar, (c.toNat % 16).digitChar]
    else [c]

def quote (s : Text) : Text :=
  '"' :: s.flatMap escapeChar ++ ['"']

def numberText : Number → Text
  | .integer i => if i < 0 then '-' :: Nat.toDigits 10 i.natAbs else Nat.toDigits 10 i.natAbs
  | .float x => floatText x

def newline (depth : Nat) : Text :=
  '\n' :: List.replicate (2 * depth) ' '

/--
Items or members between brackets, each behind a line feed of its own; without any, the brackets
stand next to each other.
-/
def enclose (opening closing : Char) (depth : Nat) : List Text → Text
  | [] => [opening, closing]
  | ts => opening :: Text.join [','] ts ++ newline depth ++ [closing]

mutual

def pretty (depth : Nat) : Json → Text
  | null => "null"
  | bool b => if b then "true" else "false"
  | number n => numberText n
  | string s => quote s
  | array items => enclose '[' ']' depth (prettyItems (depth + 1) items)
  | object members => enclose '\x7b' '\x7d' depth (prettyMembers (depth + 1) members)

def prettyItems (depth : Nat) : List Json → List Text
  | [] => []
  | t :: ts => (newline depth ++ pretty depth t) :: prettyItems depth ts

def prettyMembers (depth : Nat) : List (Text × Json) → List Text
  | [] => []
  | (k, t) :: ms => (newline depth ++ quote k ++ ": " ++ pretty depth t) :: prettyMembers depth ms

end

end Json

end Scaffold
