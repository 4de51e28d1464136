import Scaffold.Text.Utf8

/-!
This module contains the proof that a text is read back from its bytes. The bytes of one character
are read as that character whatever comes behind them; the cases are the four lengths of an
encoding.
-/

namespace Scaffold

namespace Utf8

theorem toNat_char_bounds (c : Char)
    : c.toNat < 0xD800 ∨ 0xDFFF < c.toNat ∧ c.toNat < 0x110000 := by
  apply c.valid

theorem toNat_ofNat_of_lt {n : Nat} (h : n < 256) : (UInt8.ofNat n).toNat = n := by
  rw [UInt8.toNat_ofNat']
  omega

theorem isContinuation_of_toNat {b : UInt8} {n : Nat} (h : b.toNat = n % 64 + 128)
    : isContinuation b = true := by
  unfold isContinuation
  rw [h]
  simp only [Bool.and_eq_true, decide_eq_true_eq]
  omega

theorem decode_one {b : UInt8} (hb : b.toNat < 0x80) (s : Bytes)
    : decode (b :: s) = .char (Char.ofNat b.toNat) :: decode s := by
  rw [decode]
  rw [if_pos hb]

section

variable {b c d e : UInt8} {l : Lead}
variable (hb : 0x80 ≤ b.toNat) (hlead : lead? b = some l) (hc : l.low ≤ c.toNat ∧ c.toNat ≤ l.high)

include hb hlead hc

theorem decode_two (hmore : l.more = 1) (s : Bytes)
    : decode (b :: c :: s) = assemble (b.toNat - 0xC0) [c] :: decode s := by
  rw [decode]
  rw [if_neg (by omega)]
  simp only [hlead]
  rw [if_pos hc]
  rw [if_pos hmore]

theorem decode_three (hmore : l.more = 2) (hd : isContinuation d = true) (s : Bytes)
    : decode (b :: c :: d :: s) = assemble (b.toNat - 0xE0) [c, d] :: decode s := by
  rw [decode]
  rw [if_neg (by omega)]
  simp only [hlead]
  rw [if_pos hc]
  rw [if_neg (by omega)]
  rw [if_pos hd]
  rw [if_pos hmore]

theorem decode_four (hmore : l.more = 3) (hd : isContinuation d = true)
    (he : isContinuation e = true) (s : Bytes)
    : decode (b :: c :: d :: e :: s) = assemble (b.toNat - 0xF0) [c, d, e] :: decode s := by
  rw [decode]
  rw [if_neg (by omega)]
  simp only [hlead]
  rw [if_pos hc]
  rw [if_neg (by omega)]
  rw [if_pos hd]
  rw [if_neg (by omega)]
  rw [if_pos he]

end

theorem exists_lead_two {b c : UInt8} {v : Nat} (hlow : 0x7F < v) (hhigh : v ≤ 0x7FF)
    (hb : b.toNat = v / 64 + 192) (hc : c.toNat = v % 64 + 128)
    : ∃ l, lead? b = some l ∧ l.more = 1 ∧ l.low ≤ c.toNat ∧ c.toNat ≤ l.high := by
  unfold lead?
  dsimp only
  rw [hb, hc]
  rw [if_pos (by omega)]
  apply Exists.intro
  apply And.intro rfl
  dsimp only
  omega

theorem exists_lead_three {b c : UInt8} {v : Nat} (hlow : 0x7FF < v)
    (hhigh : v < 0xD800 ∨ 0xDFFF < v ∧ v ≤ 0xFFFF)
    (hb : b.toNat = v / 4096 + 224) (hc : c.toNat = v / 64 % 64 + 128)
    : ∃ l, lead? b = some l ∧ l.more = 2 ∧ l.low ≤ c.toNat ∧ c.toNat ≤ l.high := by
  unfold lead?
  dsimp only
  rw [hb, hc]
  rw [if_neg (by omega)]
  -- The second byte is bounded from below behind the first lead and from above behind the last but
  -- two, where the surrogates would be.
  by_cases hfirst : v / 4096 + 224 = 0xE0
  . rw [if_pos hfirst]
    apply Exists.intro
    apply And.intro rfl
    dsimp only
    omega
  . rw [if_neg hfirst]
    by_cases hlast : v / 4096 + 224 = 0xED
    . rw [if_pos hlast]
      apply Exists.intro
      apply And.intro rfl
      dsimp only
      omega
    . rw [if_neg hlast]
      rw [if_pos (by omega)]
      apply Exists.intro
      apply And.intro rfl
      dsimp only
      omega

theorem exists_lead_four {b c : UInt8} {v : Nat} (hlow : 0xFFFF < v) (hhigh : v < 0x110000)
    (hb : b.toNat = v / 262144 + 240) (hc : c.toNat = v / 4096 % 64 + 128)
    : ∃ l, lead? b = some l ∧ l.more = 3 ∧ l.low ≤ c.toNat ∧ c.toNat ≤ l.high := by
  unfold lead?
  dsimp only
  rw [hb, hc]
  rw [if_neg (by omega), if_neg (by omega), if_neg (by omega), if_neg (by omega)]
  by_cases hfirst : v / 262144 + 240 = 0xF0
  . rw [if_pos hfirst]
    apply Exists.intro
    apply And.intro rfl
    dsimp only
    omega
  . rw [if_neg hfirst]
    by_cases hlast : v / 262144 + 240 = 0xF4
    . rw [if_neg (by omega), if_pos hlast]
      apply Exists.intro
      apply And.intro rfl
      dsimp only
      omega
    . rw [if_pos (by omega)]
      apply Exists.intro
      apply And.intro rfl
      dsimp only
      omega

theorem assemble_eq_char {first : Nat} {rest : Bytes} {c : Char}
    (h : rest.foldl (fun n b => n * 64 + (b.toNat - 0x80)) first = c.toNat)
    : assemble first rest = .char c := by
  unfold assemble
  rw [h]
  rw [Char.ofNat_toNat]

theorem decode_encodeChar (c : Char) (s : Bytes)
    : decode (String.utf8EncodeChar c ++ s) = .char c :: decode s := by
  have hbounds := toNat_char_bounds c
  have hnat : c.val.toNat = c.toNat := rfl
  unfold String.utf8EncodeChar
  dsimp only
  rw [hnat]
  split
  . next h1 =>
    rw [List.singleton_append]
    have hb : (UInt8.ofNat c.toNat).toNat = c.toNat := toNat_ofNat_of_lt (by omega)
    rw [decode_one (by omega)]
    rw [hb]
    rw [Char.ofNat_toNat]
  . split
    . next h1 h2 =>
      have hb : (UInt8.ofNat (c.toNat / 64 % 32 + 192)).toNat = c.toNat / 64 + 192 := by
        rw [toNat_ofNat_of_lt (by omega)]
        omega
      have hc : (UInt8.ofNat (c.toNat % 64 + 128)).toNat = c.toNat % 64 + 128 :=
        toNat_ofNat_of_lt (by omega)
      rcases exists_lead_two (by omega) h2 hb hc with ⟨l, hlead, hmore, hsecond⟩
      rw [List.cons_append, List.singleton_append]
      rw [decode_two (by omega) hlead hsecond hmore]
      rw [assemble_eq_char]
      simp only [List.foldl_cons, List.foldl_nil, hb, hc]
      omega
    . split
      . next h1 h2 h3 =>
        have hb : (UInt8.ofNat (c.toNat / 4096 % 16 + 224)).toNat = c.toNat / 4096 + 224 := by
          rw [toNat_ofNat_of_lt (by omega)]
          omega
        have hc : (UInt8.ofNat (c.toNat / 64 % 64 + 128)).toNat = c.toNat / 64 % 64 + 128 :=
          toNat_ofNat_of_lt (by omega)
        have hd : (UInt8.ofNat (c.toNat % 64 + 128)).toNat = c.toNat % 64 + 128 :=
          toNat_ofNat_of_lt (by omega)
        rcases exists_lead_three (by omega) (by omega) hb hc with ⟨l, hlead, hmore, hsecond⟩
        rw [List.cons_append, List.cons_append, List.singleton_append]
        rw [decode_three (by omega) hlead hsecond hmore (isContinuation_of_toNat hd)]
        rw [assemble_eq_char]
        simp only [List.foldl_cons, List.foldl_nil, hb, hc, hd]
        omega
      . next h1 h2 h3 =>
        have hb : (UInt8.ofNat (c.toNat / 262144 % 8 + 240)).toNat = c.toNat / 262144 + 240 := by
          rw [toNat_ofNat_of_lt (by omega)]
          omega
        have hc : (UInt8.ofNat (c.toNat / 4096 % 64 + 128)).toNat = c.toNat / 4096 % 64 + 128 :=
          toNat_ofNat_of_lt (by omega)
        have hd : (UInt8.ofNat (c.toNat / 64 % 64 + 128)).toNat = c.toNat / 64 % 64 + 128 :=
          toNat_ofNat_of_lt (by omega)
        have he : (UInt8.ofNat (c.toNat % 64 + 128)).toNat = c.toNat % 64 + 128 :=
          toNat_ofNat_of_lt (by omega)
        rcases exists_lead_four (by omega) (by omega) hb hc with ⟨l, hlead, hmore, hsecond⟩
        rw [List.cons_append, List.cons_append, List.cons_append, List.singleton_append]
        rw [decode_four (by omega) hlead hsecond hmore (isContinuation_of_toNat hd)
          (isContinuation_of_toNat he)]
        rw [assemble_eq_char]
        simp only [List.foldl_cons, List.foldl_nil, hb, hc, hd, he]
        omega

theorem decode_encode (s : Text) : decode (encode s) = s.map .char := by
  induction s with
  | nil => rfl
  | cons c s ih =>
    unfold encode
    rw [List.flatMap_cons]
    rw [decode_encodeChar]
    rw [List.map_cons]
    congr 1

end Utf8

end Scaffold
