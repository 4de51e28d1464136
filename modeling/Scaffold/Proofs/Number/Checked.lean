import Scaffold.Number.Checked

/-!
This module contains the proof that numbers are read exactly with checked arithmetic: a step that
does not fit is noticed, and one is noticed only if the number as a whole does not fit.
-/

namespace Scaffold

namespace Checked

variable {a b c n m : UInt64} {d : Char} {ds : Text}

theorem add?_eq_some_iff : add? a b = some c ↔ a.toNat + b.toNat = c.toNat := by
  have ha := a.toNat_lt
  have hb := b.toNat_lt
  have hc := c.toNat_lt
  have hsum := UInt64.toNat_add a b
  unfold add?
  split
  . next hlt =>
    rw [UInt64.lt_iff_toNat_lt] at hlt
    simp only [reduceCtorEq, false_iff]
    omega
  . next hle =>
    rw [UInt64.lt_iff_toNat_lt] at hle
    rw [Option.some.injEq, ← UInt64.toNat_inj]
    omega

theorem mul_div_eq_iff : (b = 0 ∨ a * b / b = a) ↔ a.toNat * b.toNat < UInt64.size := by
  unfold UInt64.size
  rw [← UInt64.toNat_inj, ← UInt64.toNat_inj, UInt64.toNat_div, UInt64.toNat_mul, UInt64.toNat_zero]
  constructor
  . intro h
    rcases h with h | h
    . rw [h]
      omega
    . have hle := Nat.div_mul_le_self (a.toNat * b.toNat % 2 ^ 64) b.toNat
      rw [h] at hle
      have hlt := Nat.mod_lt (a.toNat * b.toNat) (y := 2 ^ 64) (by omega)
      omega
  . intro h
    rw [Nat.mod_eq_of_lt h]
    cases Nat.eq_zero_or_pos b.toNat with
    | inl hzero => exact .inl hzero
    | inr hpos => exact .inr (Nat.mul_div_cancel _ hpos)

theorem mul?_eq_some_iff : mul? a b = some c ↔ a.toNat * b.toNat = c.toNat := by
  have hc := c.toNat_lt_size
  unfold mul?
  split
  . next h =>
    rw [mul_div_eq_iff] at h
    rw [Option.some.injEq, ← UInt64.toNat_inj, UInt64.toNat_mul, Nat.mod_eq_of_lt h]
  . next h =>
    rw [mul_div_eq_iff] at h
    simp only [reduceCtorEq, false_iff]
    omega

theorem toNat_digit (hd : d.isDigit = true) : (digit d).toNat = d.toNat - '0'.toNat := by
  have hle : d.toNat ≤ 57 := (Char.isDigit_iff_toNat.1 hd).2
  unfold digit
  rw [UInt64.toNat_ofNat', Nat.mod_eq_of_lt]
  omega

theorem pushDigit?_eq_some_iff
    : pushDigit? n d = some m ↔
        d.isDigit = true ∧ 10 * n.toNat + (d.toNat - '0'.toNat) = m.toNat := by
  unfold pushDigit?
  split
  . next hd =>
    simp only [Option.bind_eq_bind, Option.bind_eq_some_iff, mul?_eq_some_iff, add?_eq_some_iff,
      toNat_digit hd, UInt64.reduceToNat]
    constructor
    . intro h
      rcases h with ⟨shifted, hshifted, hsum⟩
      exact ⟨hd, by omega⟩
    . intro h
      have hm := m.toNat_lt
      have hshifted : (UInt64.ofNat (n.toNat * 10)).toNat = n.toNat * 10 := by
        rw [UInt64.toNat_ofNat', Nat.mod_eq_of_lt]
        omega
      exact ⟨.ofNat (n.toNat * 10), by omega, by omega⟩
  . next hd => simp [hd]

theorem le_ofDigitChars (ds : Text) (n : Nat) : n ≤ Nat.ofDigitChars 10 ds n := by
  rw [Nat.ofDigitChars_eq_ofDigitChars_zero]
  have hpos : 0 < 10 ^ ds.length := by
    apply Nat.pow_pos
    omega
  have := Nat.le_mul_of_pos_left n hpos
  omega

/--
Characters are read exactly if they are digits and the number that they make of `n` fits, and it is
this number that is read.
-/
theorem foldlM_pushDigit?_eq_some_iff
    : ds.foldlM pushDigit? n = some m ↔
        (∀ d ∈ ds, d.isDigit = true) ∧ Nat.ofDigitChars 10 ds n.toNat = m.toNat := by
  induction ds generalizing n with
  | nil => simp [UInt64.toNat_inj]
  | cons d ds ih =>
    rw [List.foldlM_cons, Nat.ofDigitChars_cons, List.forall_mem_cons]
    simp only [Option.bind_eq_bind, Option.bind_eq_some_iff, pushDigit?_eq_some_iff, ih]
    constructor
    . intro h
      rcases h with ⟨k, ⟨hd, hk⟩, hds, hvalue⟩
      rw [hk]
      exact ⟨⟨hd, hds⟩, hvalue⟩
    . intro h
      rcases h with ⟨⟨hd, hds⟩, hvalue⟩
      -- What fits in the end has fitted at every step.
      have hle := le_ofDigitChars ds (10 * n.toNat + (d.toNat - '0'.toNat))
      have hm := m.toNat_lt
      have hk : (UInt64.ofNat (10 * n.toNat + (d.toNat - '0'.toNat))).toNat =
          10 * n.toNat + (d.toNat - '0'.toNat) := by
        rw [UInt64.toNat_ofNat', Nat.mod_eq_of_lt]
        omega
      refine ⟨_, ⟨hd, hk.symm⟩, hds, ?_⟩
      rw [hk, hvalue]

end Checked

end Scaffold
