import Scaffold.Proofs.Json.Scan

/-!
This module contains the proof that the scanner finds nothing but what is written by the grammar: if
scanning goes on behind a part of a document, this part is a way to write what was scanned. What is
written by the grammar can be skipped.
-/

namespace Scaffold

namespace Numeral

variable {gs rest : List Glyph} {n : Numeral}

theorem eq_of_digit? {g : Glyph} {c : Char} (h : digit? g = some c)
    : g = .char c ∧ c.isDigit = true := by
  cases g with
  | stray bytes => cases h
  | char d =>
    unfold digit? at h
    dsimp only at h
    split at h
    . next hd =>
      cases h
      exact ⟨rfl, hd⟩
    . cases h

theorem eq_of_takeDigits (gs : List Glyph)
    : gs = Text.glyphs (takeDigits gs).1 ++ (takeDigits gs).2 ∧
        ∀ c ∈ (takeDigits gs).1, c.isDigit = true := by
  induction gs with
  | nil => simp [takeDigits]
  | cons g gs ih =>
    unfold takeDigits
    split
    . simp
    . next c hc =>
      rcases eq_of_digit? hc with ⟨rfl, hdigit⟩
      dsimp only
      constructor
      . rw [Text.glyphs_cons, List.cons_append, ← ih.1]
      . intro d hd
        rw [List.mem_cons] at hd
        rcases hd with rfl | hd
        . exact hdigit
        . exact ih.2 d hd

theorem spells_of_scanDigits {next : Text → List Glyph → Scan}
    (h : scanDigits gs next = .done n rest)
    : ∃ ds rest', IsDigits ds ∧ gs = Text.glyphs ds ++ rest' ∧ next ds rest' = .done n rest := by
  have htake := eq_of_takeDigits gs
  unfold scanDigits at h
  split at h
  . cases h
  . cases h
  . next ds rest' hne hcons heq =>
    rw [heq] at htake
    refine ⟨ds, rest', ⟨?_, htake.2⟩, htake.1, h⟩
    rintro rfl
    cases rest' with
    | nil => exact hne rfl rfl
    | cons g gs' => exact hcons g gs' rfl rfl

theorem eq_of_takeSign (gs : List Glyph)
    : (takeSign gs).2 = gs ∧ (takeSign gs).1 = false ∨
        gs = .char '+' :: (takeSign gs).2 ∧ (takeSign gs).1 = false ∨
        gs = .char '-' :: (takeSign gs).2 ∧ (takeSign gs).1 = true := by
  unfold takeSign
  split
  . exact .inr (.inl ⟨rfl, rfl⟩)
  . exact .inr (.inr ⟨rfl, rfl⟩)
  . exact .inl ⟨rfl, rfl⟩

theorem exponent_of_scanDigits {negative : Bool} {whole fraction : Text} {e : Char}
    (he : e = 'e' ∨ e = 'E')
    (h : scanDigits (takeSign gs).2 (fun ds rest =>
      .done ⟨negative, whole, fraction,
        some (if (takeSign gs).1 then -(Nat.ofDigitChars 10 ds 0 : Nat)
          else Nat.ofDigitChars 10 ds 0)⟩ rest) = .done n rest)
    : ∃ exponent es, Exponent exponent es ∧ .char e :: gs = Text.glyphs es ++ rest ∧
        n = ⟨negative, whole, fraction, exponent⟩ := by
  rcases spells_of_scanDigits h with ⟨ds, rest', hds, hgs, hdone⟩
  cases hdone
  rcases eq_of_takeSign gs with ⟨hsign, hbelow⟩ | ⟨hsign, hbelow⟩ | ⟨hsign, hbelow⟩
  . refine ⟨_, _, .unsigned he hds, ?_, ?_⟩
    . rw [Text.glyphs_cons, List.cons_append, ← hgs, hsign]
    . rw [hbelow]
      rfl
  . refine ⟨_, _, .positive he hds, ?_, ?_⟩
    . rw [Text.glyphs_cons, Text.glyphs_cons, List.cons_append, List.cons_append, ← hgs, ← hsign]
    . rw [hbelow]
      rfl
  . refine ⟨_, _, .negative he hds, ?_, ?_⟩
    . rw [Text.glyphs_cons, Text.glyphs_cons, List.cons_append, List.cons_append, ← hgs, ← hsign]
    . rw [hbelow]
      rfl

theorem exponent_of_scanExponent {negative : Bool} {whole fraction : Text}
    (h : scanExponent negative whole fraction gs = .done n rest)
    : ∃ exponent es, Exponent exponent es ∧ gs = Text.glyphs es ++ rest ∧
        n = ⟨negative, whole, fraction, exponent⟩ := by
  unfold scanExponent at h
  dsimp only at h
  split at h
  . exact exponent_of_scanDigits (.inl rfl) h
  . exact exponent_of_scanDigits (.inr rfl) h
  . cases h
    exact ⟨none, [], .absent, rfl, rfl⟩

theorem spells_of_scan {negative : Bool} (h : scan negative gs = .done n rest)
    : ∃ s, Spells n s ∧ n.negative = negative ∧ gs = Text.glyphs s ++ rest := by
  unfold scan at h
  rcases spells_of_scanDigits h with ⟨ds, gs', hds, hgs, h⟩
  split at h
  . cases h
  . next hzero =>
    have hsingle : ds.head? = some '0' → ds.length = 1 := by
      intro hhead
      apply Decidable.byContradiction
      intro hlength
      exact hzero ⟨hhead, hlength⟩
    split at h
    . rcases spells_of_scanDigits h with ⟨fs, gs'', hfs, hgs'', h⟩
      rcases exponent_of_scanExponent h with ⟨exponent, es, hes, hrest, rfl⟩
      refine ⟨_, .decimal hds hsingle hfs hes, rfl, ?_⟩
      rw [hgs, hgs'', hrest]
      simp
    . rcases exponent_of_scanExponent h with ⟨exponent, es, hes, hrest, rfl⟩
      refine ⟨_, .whole hds hsingle hes, rfl, ?_⟩
      rw [hgs, hrest]
      simp

end Numeral

namespace Quotation

/--
Whether a stretch of a document consists of a written string, without its opening quote, and of what
is left.
-/
def Closes (q : Quotation) (gs rest : List Glyph) : Prop :=
  q.broken = none ∧ ∃ gs', Spells q.pieces gs' ∧ gs = gs' ++ rest

theorem closes_of_consPiece {p : Piece} {gs gs' rest : List Glyph} {q : Quotation}
    (hp : p.Spells gs) (ih : ∀ {q}, scan gs' = (q, .ok rest) → q.Closes gs' rest)
    (h : consPiece p (scan gs') = (q, .ok rest))
    : q.Closes (gs ++ gs') rest := by
  rcases hscan : scan gs' with ⟨q', r⟩
  rw [hscan] at h
  cases h
  rcases ih hscan with ⟨hbroken, gs'', hps, rfl⟩
  refine ⟨hbroken, _, .piece hp hps, ?_⟩
  rw [List.append_assoc]

theorem closes_of_scan {gs rest : List Glyph} {q : Quotation} (h : scan gs = (q, .ok rest))
    : q.Closes gs rest := by
  fun_induction scan gs generalizing q with
  | case1 => cases h
  | case2 gs =>
    cases h
    exact ⟨rfl, _, .close, rfl⟩
  | case3 => cases h
  | case4 a b c d gs n hn ih => exact closes_of_consPiece (.unit hn) ih h
  | case5 => cases h
  | case6 => cases h
  | case7 e gs _ _ c hc ih => exact closes_of_consPiece (.letter hc) ih h
  | case8 => cases h
  | case9 => cases h
  | case10 => cases h
  | case11 c gs hquote hlast _ _ hchar hstray hcontrol ih =>
    have hbackslash : c ≠ '\\' := by
      cases gs with
      | nil => exact hlast rfl
      | cons g gs =>
        cases g with
        | char e => exact hchar e gs rfl
        | stray bytes => exact hstray bytes gs rfl
    exact closes_of_consPiece (.char hquote hbackslash (by omega)) ih h
  | case12 bytes gs ih => exact closes_of_consPiece .stray ih h

end Quotation

namespace Tree

theorem IsGap.append {ws ws' : List Glyph} (hws : IsGap ws) (hws' : IsGap ws')
    : IsGap (ws ++ ws') := by
  intro g hg
  rw [List.mem_append] at hg
  cases hg with
  | inl hg => exact hws g hg
  | inr hg => exact hws' g hg

theorem exists_gap (gs : List Glyph) : ∃ ws, IsGap ws ∧ gs = ws ++ skipGap gs := by
  refine ⟨gs.takeWhile isGap, ?_, ?_⟩
  . intro g hg
    exact List.all_eq_true.1 List.all_takeWhile g hg
  . exact List.takeWhile_append_dropWhile.symm

theorem eq_of_scanWord {t t' : Tree} {word : Text} {gs rest : List Glyph}
    (h : scanWord t word gs = (t', .ok rest))
    : t' = t ∧ gs = Text.glyphs word ++ rest := by
  induction word generalizing gs with
  | nil =>
    cases h
    exact ⟨rfl, rfl⟩
  | cons c word ih =>
    cases gs with
    | nil => cases h
    | cons g gs =>
      unfold scanWord at h
      split at h
      . next hg =>
        rcases ih h with ⟨ht, rfl⟩
        rw [hg]
        exact ⟨ht, rfl⟩
      . cases h

theorem spells_of_scanNumber {negative : Bool} {t : Tree} {gs rest : List Glyph}
    (h : scanNumber negative gs = (t, .ok rest))
    : ∃ s, Spells t (Text.glyphs ((if negative then ['-'] else []) ++ s)) ∧
        gs = Text.glyphs s ++ rest := by
  unfold scanNumber at h
  split at h
  . next n rest' hscan =>
    cases h
    rcases Numeral.spells_of_scan hscan with ⟨s, hs, hnegative, hgs⟩
    have hnumber := Spells.number hs
    unfold Numeral.sign at hnumber
    rw [hnegative] at hnumber
    exact ⟨s, hnumber, hgs⟩
  . cases h
  . cases h

mutual

theorem spells_of_scanValue {n : Nat} {t : Tree} {gs rest : List Glyph}
    (h : scanValue n gs = (t, .ok rest))
    : ∃ ws gs', IsGap ws ∧ Spells t gs' ∧ gs = ws ++ (gs' ++ rest) := by
  cases n with
  | zero => cases h
  | succ n =>
    rcases exists_gap gs with ⟨ws, hws, hgs⟩
    rw [scanValue.eq_def] at h
    dsimp only at h
    generalize skipGap gs = start at hgs h
    subst hgs
    suffices hstart : ∃ gs', Spells t gs' ∧ start = gs' ++ rest by
      rcases hstart with ⟨gs', ht, rfl⟩
      exact ⟨ws, gs', hws, ht, rfl⟩
    split at h
    . cases h
    . cases h
    . rcases eq_of_scanWord h with ⟨rfl, rfl⟩
      exact ⟨_, .null, rfl⟩
    . rcases eq_of_scanWord h with ⟨rfl, rfl⟩
      exact ⟨_, .bool, rfl⟩
    . rcases eq_of_scanWord h with ⟨rfl, rfl⟩
      exact ⟨_, .bool, rfl⟩
    . next gs =>
      rcases hscan : Quotation.scan gs with ⟨⟨ps, broken⟩, r⟩
      rw [hscan] at h
      cases h
      rcases Quotation.closes_of_scan hscan with ⟨hbroken, gs', hps, rfl⟩
      dsimp only at hbroken
      subst hbroken
      exact ⟨_, .string hps, rfl⟩
    . next gs =>
      rcases hscan : scanItems n true gs with ⟨ts, r⟩
      rw [hscan] at h
      cases h
      rcases spells_of_scanItems hscan with ⟨gs', hts, rfl⟩
      exact ⟨_, .array hts, rfl⟩
    . next gs =>
      rcases hscan : scanMembers n true gs with ⟨ms, r⟩
      rw [hscan] at h
      cases h
      rcases spells_of_scanMembers hscan with ⟨gs', hms, rfl⟩
      exact ⟨_, .object hms, rfl⟩
    . rcases spells_of_scanNumber h with ⟨s, hs, rfl⟩
      exact ⟨_, hs, rfl⟩
    . split at h
      . rcases spells_of_scanNumber h with ⟨s, hs, hgs⟩
        exact ⟨_, hs, hgs⟩
      . cases h
termination_by n

theorem spells_of_scanItems {n : Nat} {first : Bool} {ts : List Tree} {gs rest : List Glyph}
    (h : scanItems n first gs = (ts, .ok rest))
    : ∃ gs', SpellsItems first ts gs' ∧ gs = gs' ++ rest := by
  cases n with
  | zero => cases h
  | succ n =>
    rcases exists_gap gs with ⟨ws, hws, hgs⟩
    rw [scanItems.eq_def] at h
    dsimp only at h
    generalize skipGap gs = start at hgs h
    subst hgs
    split at h
    . cases h
    . cases h
      refine ⟨_, .close hws, ?_⟩
      simp
    . split at h
      . next hfirst =>
        subst hfirst
        rcases spells_of_scanItem h with ⟨t, ts', ws', gs', gs'', rfl, hws', ht, hts, hgs⟩
        refine ⟨_, .first (hws.append hws') ht hts, ?_⟩
        rw [hgs]
        simp
      . next hfirst =>
        rw [Bool.not_eq_true] at hfirst
        subst hfirst
        split at h
        . next hcomma =>
          rcases spells_of_scanItem h with ⟨t, ts', ws', gs', gs'', rfl, hws', ht, hts, hgs⟩
          refine ⟨_, .next hws hws' ht hts, ?_⟩
          rw [hcomma, hgs]
          simp
        . cases h
termination_by n

theorem spells_of_scanItem {n : Nat} {ts : List Tree} {gs rest : List Glyph}
    (h : scanItem n gs = (ts, .ok rest))
    : ∃ t ts' ws gs' gs'', ts = t :: ts' ∧ IsGap ws ∧ Spells t gs' ∧ SpellsItems false ts' gs'' ∧
        gs = ws ++ (gs' ++ (gs'' ++ rest)) := by
  cases n with
  | zero => cases h
  | succ n =>
    rw [scanItem.eq_def] at h
    dsimp only at h
    split at h
    . cases h
    . next t gs₁ hvalue =>
      rcases hscan : scanItems n false gs₁ with ⟨ts', r⟩
      rw [hscan] at h
      cases h
      rcases spells_of_scanValue hvalue with ⟨ws, gs', hws, ht, rfl⟩
      rcases spells_of_scanItems hscan with ⟨gs'', hts, rfl⟩
      exact ⟨t, ts', ws, gs', gs'', rfl, hws, ht, hts, rfl⟩
termination_by n

theorem spells_of_scanMembers {n : Nat} {first : Bool} {ms : List (Quotation × Tree)}
    {gs rest : List Glyph} (h : scanMembers n first gs = (ms, .ok rest))
    : ∃ gs', SpellsMembers first ms gs' ∧ gs = gs' ++ rest := by
  cases n with
  | zero => cases h
  | succ n =>
    rcases exists_gap gs with ⟨ws, hws, hgs⟩
    rw [scanMembers.eq_def] at h
    dsimp only at h
    generalize skipGap gs = start at hgs h
    subst hgs
    split at h
    . cases h
    . cases h
      refine ⟨_, .close hws, ?_⟩
      simp
    . split at h
      . next hfirst =>
        subst hfirst
        rcases spells_of_scanMember h with ⟨m, ms', ws', gs', gs'', rfl, hws', hm, hms, hgs⟩
        refine ⟨_, .first (hws.append hws') hm hms, ?_⟩
        rw [hgs]
        simp
      . next hfirst =>
        rw [Bool.not_eq_true] at hfirst
        subst hfirst
        split at h
        . next hcomma =>
          rcases spells_of_scanMember h with ⟨m, ms', ws', gs', gs'', rfl, hws', hm, hms, hgs⟩
          refine ⟨_, .next hws hws' hm hms, ?_⟩
          rw [hcomma, hgs]
          simp
        . cases h
termination_by n

theorem spells_of_scanMember {n : Nat} {ms : List (Quotation × Tree)} {gs rest : List Glyph}
    (h : scanMember n gs = (ms, .ok rest))
    : ∃ m ms' ws gs' gs'', ms = m :: ms' ∧ IsGap ws ∧ SpellsMember m gs' ∧
        SpellsMembers false ms' gs'' ∧ gs = ws ++ (gs' ++ (gs'' ++ rest)) := by
  cases n with
  | zero => cases h
  | succ n =>
    rcases exists_gap gs with ⟨ws, hws, hgs⟩
    rw [scanMember.eq_def] at h
    dsimp only at h
    generalize skipGap gs = start at hgs h
    subst hgs
    split at h
    . cases h
    . split at h
      . cases h
      . next q gs₁ hkey =>
        rcases exists_gap gs₁ with ⟨ws₁, hws₁, hgs₁⟩
        generalize skipGap gs₁ = colon at hgs₁ h
        subst hgs₁
        split at h
        . cases h
        . split at h
          . cases h
          . next t gs₂ hvalue =>
            rcases hscan : scanMembers n false gs₂ with ⟨ms', r⟩
            rw [hscan] at h
            cases h
            rcases q with ⟨ps, broken⟩
            rcases Quotation.closes_of_scan hkey with ⟨hbroken, ks, hks, rfl⟩
            dsimp only at hbroken
            subst hbroken
            rcases spells_of_scanValue hvalue with ⟨ws₂, gs', hws₂, ht, rfl⟩
            rcases spells_of_scanMembers hscan with ⟨gs'', hms, rfl⟩
            refine ⟨_, _, ws, _, gs'', rfl, hws, .mk hks hws₁ hws₂ ht, hms, ?_⟩
            simp
        . cases h
    . cases h
termination_by n

end

/--
Whether a document consists of a written value and gaps around it.
-/
def IsWritten (t : Tree) (gs : List Glyph) : Prop :=
  ∃ ws gs' ws', IsGap ws ∧ IsGap ws' ∧ Spells t gs' ∧ gs = ws ++ gs' ++ ws'

theorem isGap_of_atEnd {gs : List Glyph} (h : atEnd (.ok gs) = .ok ()) : IsGap gs := by
  rcases exists_gap gs with ⟨ws, hws, hgs⟩
  unfold atEnd at h
  dsimp only at h
  split at h
  . next hempty =>
    rw [List.isEmpty_iff] at hempty
    rw [hgs, hempty, List.append_nil]
    exact hws
  . cases h

/--
The scanner gets to the end of exactly those documents that are written by the grammar.
-/
theorem isWritten_iff {t : Tree} {gs : List Glyph}
    : IsWritten t gs ↔ ∃ rest, scan gs = (t, rest) ∧ atEnd rest = .ok () := by
  constructor
  . intro h
    rcases h with ⟨ws, gs', ws', hws, hws', ht, rfl⟩
    exact ⟨_, scan_append ht hws hws', atEnd_of_isGap hws'⟩
  . intro h
    rcases h with ⟨rest, hscan, hend⟩
    cases rest with
    | error e => cases hend
    | ok rest =>
      rcases spells_of_scanValue hscan with ⟨ws, gs', hws, ht, rfl⟩
      refine ⟨ws, gs', rest, hws, isGap_of_atEnd hend, ht, ?_⟩
      rw [List.append_assoc]

theorem IsWritten.unique {t t' : Tree} {gs : List Glyph} (h : IsWritten t gs)
    (h' : IsWritten t' gs)
    : t = t' := by
  rw [isWritten_iff] at h h'
  rcases h with ⟨rest, hscan, -⟩
  rcases h' with ⟨rest', hscan', -⟩
  rw [hscan] at hscan'
  cases hscan'
  rfl

mutual

theorem Spells.skip_eq {t : Tree} {gs : List Glyph} (h : Spells t gs) : t.skip = .ok () := by
  cases h with
  | null => rfl
  | bool => rfl
  | number => rfl
  | string => rfl
  | array h =>
    unfold skip
    rw [h.skipItems_eq]
    rfl
  | object h =>
    unfold skip
    rw [h.skipMembers_eq]
    rfl
termination_by sizeOf t

theorem SpellsItems.skipItems_eq {first : Bool} {ts : List Tree} {gs : List Glyph}
    (h : SpellsItems first ts gs)
    : skipItems ts = .ok () := by
  cases h with
  | close => rfl
  | first _ ht hts | next _ _ ht hts =>
    unfold skipItems
    rw [ht.skip_eq, hts.skipItems_eq]
    rfl
termination_by sizeOf ts

theorem SpellsMembers.skipMembers_eq {first : Bool} {ms : List (Quotation × Tree)}
    {gs : List Glyph} (h : SpellsMembers first ms gs)
    : skipMembers ms = .ok () := by
  cases h with
  | close => rfl
  | first _ hm hms | next _ _ hm hms =>
    cases hm with
    | mk _ _ _ ht =>
      unfold skipMembers
      rw [ht.skip_eq, hms.skipMembers_eq]
      rfl
termination_by sizeOf ms

end

end Tree

end Scaffold
