import Scaffold.Json.Print
import Scaffold.Json.Quotation
import Scaffold.Proofs.Except
import Scaffold.Proofs.Json.Numeral

/-!
This module contains the grammar of written strings, the proof that a string is scanned exactly as
it is written, and the proof that the text of a string is found again in its written form.
-/

namespace Scaffold

inductive Piece.Spells : Piece → List Glyph → Prop where
  | char {c : Char} (hquote : c ≠ '"') (hbackslash : c ≠ '\\') (hcontrol : 0x20 ≤ c.toNat)
    : Spells (.plain (.char c)) [.char c]
  | stray {bytes : Bytes} : Spells (.plain (.stray bytes)) [.stray bytes]
  | letter {e c : Char} (h : Quotation.unescape? e = some c)
    : Spells (.plain (.char c)) [.char '\\', .char e]
  | unit {a b c d : Glyph} {n : Nat} (h : Quotation.unit? a b c d = some n)
    : Spells (.unit n) [.char '\\', .char 'u', a, b, c, d]

namespace Quotation

inductive Spells : List Piece → List Glyph → Prop where
  | close : Spells [] [.char '"']
  | piece {p : Piece} {ps : List Piece} {gs gs' : List Glyph} (hp : p.Spells gs)
      (hps : Spells ps gs')
    : Spells (p :: ps) (gs ++ gs')

theorem scan_piece {p : Piece} {gs : List Glyph} (hp : p.Spells gs) (rest : List Glyph)
    : scan (gs ++ rest) = consPiece p (scan rest) := by
  cases hp with
  | @char c hquote hbackslash hcontrol =>
    rw [List.singleton_append]
    rw [scan]
    . rw [if_neg]
      omega
    all_goals simp_all
  | stray => rfl
  | @letter e c h =>
    rw [List.cons_append, List.singleton_append]
    have he : e ≠ 'u' := by
      intro heq
      subst heq
      simp [unescape?] at h
    rw [scan]
    . rw [h]
    all_goals simp_all
  | unit h =>
    simp only [List.cons_append, List.nil_append]
    rw [scan]
    rw [h]

theorem scan_append {ps : List Piece} {gs : List Glyph} (h : Spells ps gs) (rest : List Glyph)
    : scan (gs ++ rest) = (⟨ps, none⟩, .ok rest) := by
  induction h with
  | close => rfl
  | piece hp hps ih =>
    rw [List.append_assoc]
    rw [scan_piece hp]
    rw [ih]
    rfl

def isNumbered (c : Char) : Bool :=
  c.toNat < 0x20 && c ≠ '\x08' && c ≠ '\x0c' && c ≠ '\n' && c ≠ '\r' && c ≠ '\t'

def pieceOf (c : Char) : Piece :=
  if isNumbered c then .unit c.toNat else .plain (.char c)

theorem hexDigit?_digitChar : ∀ n < 16, hexDigit? (.char n.digitChar) = some n := by
  decide

theorem pieceOf_spells (c : Char) : (pieceOf c).Spells (Text.glyphs (Json.escapeChar c)) := by
  unfold Json.escapeChar
  split
  . exact .letter rfl
  . exact .letter rfl
  . exact .letter rfl
  . exact .letter rfl
  . exact .letter rfl
  . exact .letter rfl
  . exact .letter rfl
  . next h1 h2 h3 h4 h5 h6 h7 =>
    split
    . next hcontrol =>
      have hnumbered : isNumbered c = true := by
        simp_all [isNumbered]
      unfold pieceOf
      rw [if_pos hnumbered]
      rw [String.toList_ofList]
      apply Piece.Spells.unit
      unfold unit?
      rw [hexDigit?_digitChar _ (by omega)]
      rw [hexDigit?_digitChar _ (by omega)]
      have hzero : hexDigit? (.char '0') = some 0 := rfl
      rw [hzero]
      simp only [Option.bind_eq_bind, Option.bind_some, Option.pure_def]
      congr 1
      omega
    . next hcontrol =>
      have hnumbered : isNumbered c = false := by
        simp [isNumbered, hcontrol]
      unfold pieceOf
      rw [hnumbered]
      apply Piece.Spells.char
      . exact h1
      . exact h2
      . omega

def ofText (s : Text) : Quotation :=
  ⟨s.map pieceOf, none⟩

theorem spells_map_pieceOf (s : Text)
    : Spells (s.map pieceOf) (Text.glyphs (s.flatMap Json.escapeChar ++ ['"'])) := by
  induction s with
  | nil => exact .close
  | cons c s ih =>
    rw [List.flatMap_cons, List.append_assoc, Text.glyphs_append]
    rw [List.map_cons]
    apply Spells.piece
    . apply pieceOf_spells c
    . exact ih

theorem glyphs_map_pieceOf (s : Text) : glyphs none (s.map pieceOf) = .ok (s.map .char) := by
  induction s with
  | nil => rfl
  | cons c s ih =>
    rw [List.map_cons, List.map_cons]
    cases h : isNumbered c with
    | true =>
      have hpiece : pieceOf c = .unit c.toNat := by
        simp [pieceOf, h]
      -- A control character is no half of another character.
      have hlt : c.toNat < 0x20 := by
        simp only [isNumbered, Bool.and_eq_true, decide_eq_true_eq] at h
        omega
      have htrailing : isTrailing c.toNat = false := by
        simp only [isTrailing, Bool.and_eq_false_iff, decide_eq_false_iff_not]
        omega
      have hleading : isLeading c.toNat = false := by
        simp only [isLeading, Bool.and_eq_false_iff, decide_eq_false_iff_not]
        omega
      rw [hpiece, glyphs.eq_def]
      simp only [htrailing, hleading, ih, Char.ofNat_toNat, Bool.false_eq_true, if_false]
      rfl
    | false =>
      have hpiece : pieceOf c = .plain (.char c) := by
        simp [pieceOf, h]
      rw [hpiece, glyphs]
      rw [ih]
      rfl

@[simp]
theorem text_ofText (s : Text) : (ofText s).text = .ok s := by
  have hchars : (s.map Glyph.char).mapM Glyph.char? = some s := by
    induction s with
    | nil => rfl
    | cons c s ih => simp [Glyph.char?, ih]
  unfold text ofText
  rw [glyphs_map_pieceOf]
  rw [Except.ok_bind]
  rw [hchars]

end Quotation

end Scaffold
