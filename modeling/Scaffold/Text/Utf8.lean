import Scaffold.Text.Basic

/-!
This module contains UTF-8: how a text is stored as bytes, and how bytes are read as a text even if
some of them are not the encoding of any character.
-/

namespace Scaffold

/--
What a stretch of bytes stands for: a character, or a longest start of an encoding that is not
carried through.
-/
inductive Glyph where
  | char (c : Char)
  | stray (bytes : Bytes)
  deriving DecidableEq, Repr, Inhabited

namespace Utf8

def encode (s : Text) : Bytes :=
  s.flatMap String.utf8EncodeChar

/--
What the first byte of an encoding of several bytes tells: how many bytes follow it, and between
which bounds the second byte lies. The bounds rule out overlong forms, surrogates and numbers above
the last code point; later bytes lie between `0x80` and `0xBF` in any case.
-/
structure Lead where
  more : Nat
  low : Nat
  high : Nat

def lead? (b : UInt8) : Option Lead :=
  let n := b.toNat
  if 0xC2 ≤ n ∧ n ≤ 0xDF then some ⟨1, 0x80, 0xBF⟩
  else if n = 0xE0 then some ⟨2, 0xA0, 0xBF⟩
  else if n = 0xED then some ⟨2, 0x80, 0x9F⟩
  else if 0xE1 ≤ n ∧ n ≤ 0xEF then some ⟨2, 0x80, 0xBF⟩
  else if n = 0xF0 then some ⟨3, 0x90, 0xBF⟩
  else if 0xF1 ≤ n ∧ n ≤ 0xF3 then some ⟨3, 0x80, 0xBF⟩
  else if n = 0xF4 then some ⟨3, 0x80, 0x8F⟩
  else none

def isContinuation (b : UInt8) : Bool :=
  0x80 ≤ b.toNat && b.toNat ≤ 0xBF

def assemble (first : Nat) (rest : Bytes) : Glyph :=
  .char (Char.ofNat (rest.foldl (fun n b => n * 64 + (b.toNat - 0x80)) first))

/--
Read bytes as glyphs. Bytes that do not carry an encoding through are gathered up to the first one
that cannot continue it, and reading goes on with that one.
-/
def decode : Bytes → List Glyph
  | [] => []
  | b :: s =>
    if b.toNat < 0x80 then .char (Char.ofNat b.toNat) :: decode s
    else match lead? b with
      | none => .stray [b] :: decode s
      | some l =>
        match s with
        | [] => [.stray [b]]
        | c :: s₂ =>
          if l.low ≤ c.toNat ∧ c.toNat ≤ l.high then
            if l.more = 1 then assemble (b.toNat - 0xC0) [c] :: decode s₂
            else match s₂ with
              | [] => [.stray [b, c]]
              | d :: s₃ =>
                if isContinuation d then
                  if l.more = 2 then assemble (b.toNat - 0xE0) [c, d] :: decode s₃
                  else match s₃ with
                    | [] => [.stray [b, c, d]]
                    | e :: s₄ =>
                      if isContinuation e then assemble (b.toNat - 0xF0) [c, d, e] :: decode s₄
                      else .stray [b, c, d] :: decode (e :: s₄)
                else .stray [b, c] :: decode (d :: s₃)
          else .stray [b] :: decode (c :: s₂)

end Utf8

def Glyph.size : Glyph → Nat
  | .char c => c.utf8Size
  | .stray bytes => bytes.length

def Glyph.char? : Glyph → Option Char
  | .char c => some c
  | .stray _ => none

def Glyph.shown : Glyph → Char
  | .char c => c
  | .stray _ => '\uFFFD'

namespace Text

def ofUtf8? (bytes : Bytes) : Option Text :=
  (Utf8.decode bytes).mapM Glyph.char?

def ofUtf8Lossy (bytes : Bytes) : Text :=
  (Utf8.decode bytes).map Glyph.shown

end Text

end Scaffold
