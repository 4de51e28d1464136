import Scaffold.Json.Numeral

/-!
This module contains the grammar of written numbers and the proof that a number is cut out of a
document exactly as it is written, provided that what comes behind it does not continue it.
-/

namespace Scaffold

namespace Text

def glyphs (s : Text) : List Glyph :=
  s.map .char

@[simp]
theorem glyphs_nil : glyphs [] = [] := rfl

@[simp]
theorem glyphs_cons (c : Char) (s : Text) : glyphs (c :: s) = .char c :: glyphs s := rfl

@[simp]
theorem glyphs_append (s t : Text) : glyphs (s ++ t) = glyphs s ++ glyphs t := by
  simp [glyphs]

end Text

namespace Numeral

def continues (c : Char) : Bool :=
  c.isDigit || c = '.' || c = 'e' || c = 'E'

/--
Whether a document goes on with something that is no part of a number in front of it.
-/
def Ends (gs : List Glyph) : Prop :=
  ∀ c, gs.head? = some (.char c) → continues c = false

def IsDigits (ds : Text) : Prop :=
  ds ≠ [] ∧ ∀ c ∈ ds, c.isDigit = true

inductive Exponent : Option Int → Text → Prop where
  | absent : Exponent none []
  | unsigned {e : Char} {ds : Text} (he : e = 'e' ∨ e = 'E') (hds : IsDigits ds)
    : Exponent (some (Nat.ofDigitChars 10 ds 0)) (e :: ds)
  | positive {e : Char} {ds : Text} (he : e = 'e' ∨ e = 'E') (hds : IsDigits ds)
    : Exponent (some (Nat.ofDigitChars 10 ds 0)) (e :: '+' :: ds)
  | negative {e : Char} {ds : Text} (he : e = 'e' ∨ e = 'E') (hds : IsDigits ds)
    : Exponent (some (-(Nat.ofDigitChars 10 ds 0 : Nat))) (e :: '-' :: ds)

inductive Spells : Numeral → Text → Prop where
  | whole {negative : Bool} {ds es : Text} {exponent : Option Int} (hds : IsDigits ds)
      (hzero : ds.head? = some '0' → ds.length = 1) (hes : Exponent exponent es)
    : Spells ⟨negative, ds, [], exponent⟩ (ds ++ es)
  | decimal {negative : Bool} {ds fs es : Text} {exponent : Option Int} (hds : IsDigits ds)
      (hzero : ds.head? = some '0' → ds.length = 1) (hfs : IsDigits fs)
      (hes : Exponent exponent es)
    : Spells ⟨negative, ds, fs, exponent⟩ (ds ++ '.' :: (fs ++ es))

theorem Spells.exists_cons {n : Numeral} {s : Text} (h : Spells n s)
    : ∃ c s', s = c :: s' ∧ c.isDigit = true := by
  cases h with
  | @whole negative ds es exponent hds | @decimal negative ds fs es exponent hds =>
    cases ds with
    | nil => exact absurd rfl hds.1
    | cons d ds =>
      refine ⟨d, _, rfl, ?_⟩
      apply hds.2
      simp

theorem digit?_of_ends {g : Glyph} {gs : List Glyph} (h : Ends (g :: gs)) : digit? g = none := by
  cases g with
  | stray bytes => rfl
  | char c =>
    have hc := h c rfl
    unfold continues at hc
    simp only [Bool.or_eq_false_iff] at hc
    simp [digit?, hc.1.1.1]

theorem takeDigits_append {ds : Text} (hds : ∀ c ∈ ds, c.isDigit = true) {rest : List Glyph}
    (hrest : ∀ g gs, rest = g :: gs → digit? g = none)
    : takeDigits (Text.glyphs ds ++ rest) = (ds, rest) := by
  induction ds with
  | nil =>
    rw [Text.glyphs_nil, List.nil_append]
    cases rest with
    | nil => rfl
    | cons g gs =>
      unfold takeDigits
      rw [hrest g gs rfl]
  | cons d ds ih =>
    rw [Text.glyphs_cons, List.cons_append]
    unfold takeDigits
    have hd : digit? (.char d) = some d := by
      simp [digit?, hds d]
    rw [hd]
    dsimp only
    rw [ih]
    intro c hc
    apply hds
    simp [hc]

theorem scanDigits_append {ds : Text} (hds : IsDigits ds) {rest : List Glyph}
    (hrest : ∀ g gs, rest = g :: gs → digit? g = none) (next : Text → List Glyph → Scan)
    : scanDigits (Text.glyphs ds ++ rest) next = next ds rest := by
  unfold scanDigits
  rw [takeDigits_append hds.2 hrest]
  cases ds with
  | nil => exact absurd rfl hds.1
  | cons d ds => rfl

theorem digit?_of_ends_tail {rest : List Glyph} (hrest : Ends rest)
    : ∀ g gs, rest = g :: gs → digit? g = none := by
  intro g gs h
  rw [h] at hrest
  apply digit?_of_ends hrest

theorem takeSign_digits {ds : Text} (hds : IsDigits ds) (rest : List Glyph)
    : takeSign (Text.glyphs ds ++ rest) = (false, Text.glyphs ds ++ rest) := by
  cases ds with
  | nil => exact absurd rfl hds.1
  | cons d ds =>
    have hd : d.isDigit = true := hds.2 d (by simp)
    rw [Text.glyphs_cons, List.cons_append]
    unfold takeSign
    split
    . next h =>
      cases h
      exact absurd hd (by decide)
    . next h =>
      cases h
      exact absurd hd (by decide)
    . rfl

theorem scanExponent_append {exponent : Option Int} {es : Text} (hes : Exponent exponent es)
    {rest : List Glyph} (hrest : Ends rest) (negative : Bool) (whole fraction : Text)
    : scanExponent negative whole fraction (Text.glyphs es ++ rest) =
        .done ⟨negative, whole, fraction, exponent⟩ rest := by
  have htail := digit?_of_ends_tail hrest
  cases hes with
  | absent =>
    rw [Text.glyphs_nil, List.nil_append]
    unfold scanExponent
    dsimp only
    split
    . exact absurd (hrest 'e' rfl) (by decide)
    . exact absurd (hrest 'E' rfl) (by decide)
    . rfl
  | unsigned he hds =>
    rcases he with rfl | rfl
    all_goals
      simp only [scanExponent, Text.glyphs_cons, List.cons_append]
      rw [takeSign_digits hds]
      dsimp only
      rw [scanDigits_append hds htail]
      rfl
  | positive he hds =>
    rcases he with rfl | rfl
    all_goals
      simp only [scanExponent, Text.glyphs_cons, List.cons_append, takeSign]
      rw [scanDigits_append hds htail]
      rfl
  | negative he hds =>
    rcases he with rfl | rfl
    all_goals
      simp only [scanExponent, Text.glyphs_cons, List.cons_append, takeSign]
      rw [scanDigits_append hds htail]
      rfl

/--
Where a number has digits in front of its exponent, they end there.
-/
theorem digit?_of_exponent {exponent : Option Int} {es : Text} (hes : Exponent exponent es)
    {rest : List Glyph} (hrest : Ends rest)
    : ∀ g gs, Text.glyphs es ++ rest = g :: gs → digit? g = none := by
  intro g gs h
  cases hes with
  | absent => apply digit?_of_ends_tail hrest g gs h
  | unsigned he | positive he | negative he =>
    rw [Text.glyphs_cons, List.cons_append] at h
    cases h
    rcases he with rfl | rfl <;> rfl

theorem scan_append {n : Numeral} {s : Text} (h : Spells n s) {rest : List Glyph}
    (hrest : Ends rest)
    : scan n.negative (Text.glyphs s ++ rest) = .done n rest := by
  cases h with
  | @whole negative ds es exponent hds hzero hes =>
    rw [Text.glyphs_append, List.append_assoc]
    unfold scan
    rw [scanDigits_append hds (digit?_of_exponent hes hrest)]
    rw [if_neg]
    . split
      . next gs hgs =>
        -- Nothing that can come behind the digits is a point.
        cases hes with
        | absent =>
          rw [Text.glyphs_nil, List.nil_append] at hgs
          rw [hgs] at hrest
          exact absurd (hrest '.' rfl) (by decide)
        | unsigned he | positive he | negative he =>
          rw [Text.glyphs_cons, List.cons_append] at hgs
          cases hgs
          simp at he
      . rw [scanExponent_append hes hrest]
    . intro hlead
      apply hlead.2 (hzero hlead.1)
  | @decimal negative ds fs es exponent hds hzero hfs hes =>
    rw [Text.glyphs_append, Text.glyphs_cons, Text.glyphs_append, List.append_assoc]
    unfold scan
    rw [List.cons_append, List.append_assoc]
    rw [scanDigits_append hds]
    . rw [if_neg]
      . split
        . next gs hgs =>
          cases hgs
          rw [scanDigits_append hfs (digit?_of_exponent hes hrest)]
          rw [scanExponent_append hes hrest]
        . next hpoint => exact absurd rfl (hpoint _)
      . intro hlead
        apply hlead.2 (hzero hlead.1)
    . intro g gs h
      cases h
      rfl

end Numeral

end Scaffold
