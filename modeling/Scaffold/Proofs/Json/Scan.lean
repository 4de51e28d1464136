import Scaffold.Json.Scan
import Scaffold.Proofs.Json.Quotation

/-!
This module contains the grammar of documents and the proof that the scanner finds every value that
is written by it. The grammar leaves open which gaps stand between the parts of a document.
-/

namespace Scaffold

namespace Numeral

def sign (n : Numeral) : Text :=
  if n.negative then ['-'] else []

end Numeral

namespace Tree

def IsGap (ws : List Glyph) : Prop :=
  ∀ g ∈ ws, isGap g = true

mutual

inductive Spells : Tree → List Glyph → Prop where
  | null : Spells .null (Text.glyphs "null")
  | bool {b : Bool} : Spells (.bool b) (Text.glyphs (if b then "true" else "false"))
  | number {n : Numeral} {s : Text} (h : n.Spells s)
    : Spells (.number n) (Text.glyphs (n.sign ++ s))
  | string {ps : List Piece} {gs : List Glyph} (h : Quotation.Spells ps gs)
    : Spells (.string ⟨ps, none⟩) (.char '"' :: gs)
  | array {ts : List Tree} {gs : List Glyph} (h : SpellsItems true ts gs)
    : Spells (.array ts none) (.char '[' :: gs)
  | object {ms : List (Quotation × Tree)} {gs : List Glyph} (h : SpellsMembers true ms gs)
    : Spells (.object ms none) (.char '\x7b' :: gs)

/--
The ways to write the items of an array behind its opening bracket or, if they are not the first
ones, behind another item.
-/
inductive SpellsItems : (first : Bool) → List Tree → List Glyph → Prop where
  | close {first : Bool} {ws : List Glyph} (hws : IsGap ws)
    : SpellsItems first [] (ws ++ [.char ']'])
  | first {t : Tree} {ts : List Tree} {ws gs gs' : List Glyph} (hws : IsGap ws)
      (ht : Spells t gs) (hts : SpellsItems false ts gs')
    : SpellsItems true (t :: ts) (ws ++ (gs ++ gs'))
  | next {t : Tree} {ts : List Tree} {ws ws' gs gs' : List Glyph} (hws : IsGap ws)
      (hws' : IsGap ws') (ht : Spells t gs) (hts : SpellsItems false ts gs')
    : SpellsItems false (t :: ts) (ws ++ .char ',' :: (ws' ++ (gs ++ gs')))

/--
The ways to write the members of an object behind its opening bracket or, if they are not the first
ones, behind another member.
-/
inductive SpellsMembers : (first : Bool) → List (Quotation × Tree) → List Glyph → Prop where
  | close {first : Bool} {ws : List Glyph} (hws : IsGap ws)
    : SpellsMembers first [] (ws ++ [.char '\x7d'])
  | first {m : Quotation × Tree} {ms : List (Quotation × Tree)} {ws gs gs' : List Glyph}
      (hws : IsGap ws) (hm : SpellsMember m gs) (hms : SpellsMembers false ms gs')
    : SpellsMembers true (m :: ms) (ws ++ (gs ++ gs'))
  | next {m : Quotation × Tree} {ms : List (Quotation × Tree)} {ws ws' gs gs' : List Glyph}
      (hws : IsGap ws) (hws' : IsGap ws') (hm : SpellsMember m gs)
      (hms : SpellsMembers false ms gs')
    : SpellsMembers false (m :: ms) (ws ++ .char ',' :: (ws' ++ (gs ++ gs')))

inductive SpellsMember : Quotation × Tree → List Glyph → Prop where
  | mk {ps : List Piece} {t : Tree} {ks ws ws' gs : List Glyph} (hk : Quotation.Spells ps ks)
      (hws : IsGap ws) (hws' : IsGap ws') (ht : Spells t gs)
    : SpellsMember (⟨ps, none⟩, t) (.char '"' :: (ks ++ (ws ++ .char ':' :: (ws' ++ gs))))

end

theorem skipGap_append {ws : List Glyph} (hws : IsGap ws) (gs : List Glyph)
    : skipGap (ws ++ gs) = skipGap gs := by
  unfold skipGap
  rw [List.dropWhile_append_of_pos hws]

theorem skipGap_cons {g : Glyph} (hg : isGap g = false) (gs : List Glyph)
    : skipGap (g :: gs) = g :: gs := by
  unfold skipGap
  rw [List.dropWhile_cons_of_neg]
  simp [hg]

theorem ends_cons_of_isGap {g : Glyph} (hg : isGap g = true) (gs : List Glyph)
    : Numeral.Ends (g :: gs) := by
  intro c hc
  cases hc
  simp only [isGap, Bool.or_eq_true, decide_eq_true_eq] at hg
  rcases hg with ((rfl | rfl) | rfl) | rfl
  all_goals decide

theorem ends_append {ws : List Glyph} (hws : IsGap ws) {gs : List Glyph} (hgs : Numeral.Ends gs)
    : Numeral.Ends (ws ++ gs) := by
  cases ws with
  | nil => exact hgs
  | cons g ws =>
    apply ends_cons_of_isGap
    apply hws
    simp

theorem SpellsItems.ends {ts : List Tree} {gs : List Glyph} (h : SpellsItems false ts gs)
    (rest : List Glyph) : Numeral.Ends (gs ++ rest) := by
  cases h with
  | close hws =>
    rw [List.append_assoc]
    apply ends_append hws
    intro c hc
    cases hc
    decide
  | next hws =>
    rw [List.append_assoc]
    apply ends_append hws
    intro c hc
    cases hc
    decide

theorem SpellsMembers.ends {ms : List (Quotation × Tree)} {gs : List Glyph}
    (h : SpellsMembers false ms gs) (rest : List Glyph) : Numeral.Ends (gs ++ rest) := by
  cases h with
  | close hws =>
    rw [List.append_assoc]
    apply ends_append hws
    intro c hc
    cases hc
    decide
  | next hws =>
    rw [List.append_assoc]
    apply ends_append hws
    intro c hc
    cases hc
    decide

/--
A written value neither starts with a gap nor looks like the end of an array.
-/
def IsStart (g : Glyph) : Prop :=
  isGap g = false ∧ g ≠ .char ']'

theorem isStart_of_isDigit {c : Char} (hc : c.isDigit = true) : IsStart (.char c) := by
  constructor
  . simp only [isGap, Bool.or_eq_false_iff, decide_eq_false_iff_not]
    refine ⟨⟨⟨?_, ?_⟩, ?_⟩, ?_⟩
    all_goals
      intro h
      subst h
      exact absurd hc (by decide)
  . intro h
    cases h
    exact absurd hc (by decide)

theorem Spells.exists_cons {t : Tree} {gs : List Glyph} (h : Spells t gs)
    : ∃ g gs', gs = g :: gs' ∧ IsStart g := by
  cases h with
  | null => exact ⟨.char 'n', _, rfl, by decide, by decide⟩
  | @bool b =>
    cases b with
    | true => exact ⟨.char 't', _, rfl, by decide, by decide⟩
    | false => exact ⟨.char 'f', _, rfl, by decide, by decide⟩
  | @number n s h =>
    rcases n with ⟨_ | _, ds, fs, e⟩
    . rcases h.exists_cons with ⟨c, s', rfl, hc⟩
      exact ⟨.char c, _, rfl, isStart_of_isDigit hc⟩
    . exact ⟨.char '-', _, rfl, by decide, by decide⟩
  | string => exact ⟨.char '"', _, rfl, by decide, by decide⟩
  | array => exact ⟨.char '[', _, rfl, by decide, by decide⟩
  | object => exact ⟨.char '\x7b', _, rfl, by decide, by decide⟩

theorem Spells.length_pos {t : Tree} {gs : List Glyph} (h : Spells t gs) : 0 < gs.length := by
  rcases h.exists_cons with ⟨g, gs', rfl, -⟩
  simp

theorem scanWord_append (t : Tree) (word : Text) (rest : List Glyph)
    : scanWord t word (Text.glyphs word ++ rest) = (t, .ok rest) := by
  induction word with
  | nil => rfl
  | cons c word ih =>
    rw [Text.glyphs_cons, List.cons_append]
    unfold scanWord
    rw [if_pos rfl]
    exact ih

theorem scanNumber_append {n : Numeral} {s : Text} (h : n.Spells s) {rest : List Glyph}
    (hrest : Numeral.Ends rest)
    : scanNumber n.negative (Text.glyphs s ++ rest) = (.number n, .ok rest) := by
  unfold scanNumber
  rw [Numeral.scan_append h hrest]

theorem scanValue_digit {c : Char} (hc : c.isDigit = true) (n : Nat) (gs : List Glyph)
    : scanValue (n + 1) (.char c :: gs) = scanNumber false (.char c :: gs) := by
  rw [scanValue.eq_def]
  dsimp only
  rw [skipGap_cons (isStart_of_isDigit hc).1]
  split
  case h_10 h =>
    cases h
    rw [if_pos hc]
  all_goals
    next h =>
      cases h <;> exact absurd hc (by decide)

theorem scanValue_skipGap {ws : List Glyph} (hws : IsGap ws) (n : Nat) (gs : List Glyph)
    : scanValue n (ws ++ gs) = scanValue n gs := by
  cases n with
  | zero => rfl
  | succ n =>
    rw [scanValue.eq_def, scanValue.eq_def]
    dsimp only
    rw [skipGap_append hws]

theorem scanItems_skipGap {ws : List Glyph} (hws : IsGap ws) (n : Nat) (first : Bool)
    (gs : List Glyph) : scanItems n first (ws ++ gs) = scanItems n first gs := by
  cases n with
  | zero => rfl
  | succ n =>
    rw [scanItems.eq_def, scanItems.eq_def]
    dsimp only
    rw [skipGap_append hws]

theorem scanItems_first {g : Glyph} (hg : IsStart g) (n : Nat) (gs : List Glyph)
    : scanItems (n + 1) true (g :: gs) = scanItem n (g :: gs) := by
  rw [scanItems.eq_def]
  dsimp only
  rw [skipGap_cons hg.1]
  split
  . next h => cases h
  . next h =>
    cases h
    exact absurd rfl hg.2
  . next h =>
    cases h
    rw [if_pos rfl]

theorem scanItem_skipGap {ws : List Glyph} (hws : IsGap ws) (n : Nat) (gs : List Glyph)
    : scanItem n (ws ++ gs) = scanItem n gs := by
  cases n with
  | zero => rfl
  | succ n =>
    rw [scanItem.eq_def, scanItem.eq_def]
    dsimp only
    rw [scanValue_skipGap hws]

theorem scanMembers_skipGap {ws : List Glyph} (hws : IsGap ws) (n : Nat) (first : Bool)
    (gs : List Glyph) : scanMembers n first (ws ++ gs) = scanMembers n first gs := by
  cases n with
  | zero => rfl
  | succ n =>
    rw [scanMembers.eq_def, scanMembers.eq_def]
    dsimp only
    rw [skipGap_append hws]

theorem scanMember_skipGap {ws : List Glyph} (hws : IsGap ws) (n : Nat) (gs : List Glyph)
    : scanMember n (ws ++ gs) = scanMember n gs := by
  cases n with
  | zero => rfl
  | succ n =>
    rw [scanMember.eq_def, scanMember.eq_def]
    dsimp only
    rw [skipGap_append hws]

theorem SpellsItems.length_pos {first : Bool} {ts : List Tree} {gs : List Glyph}
    (h : SpellsItems first ts gs) : 0 < gs.length := by
  cases h with
  | close => simp
  | first hws ht =>
    have hpos := ht.length_pos
    simp only [List.length_append]
    omega
  | next =>
    simp only [List.length_append, List.length_cons]
    omega

theorem SpellsMembers.length_pos {first : Bool} {ms : List (Quotation × Tree)} {gs : List Glyph}
    (h : SpellsMembers first ms gs) : 0 < gs.length := by
  cases h with
  | close => simp
  | first hws hm =>
    cases hm
    simp only [List.length_append, List.length_cons]
    omega
  | next =>
    simp only [List.length_append, List.length_cons]
    omega

/-
The inductions go down the fuel, of which three levels are enough for every glyph that is used up:
one for a value, and two for the item or member that it belongs to.
-/
mutual

theorem scanValue_append {t : Tree} {gs : List Glyph} (h : Spells t gs) {rest : List Glyph}
    (hrest : Numeral.Ends rest) (n : Nat) (hn : 3 * gs.length ≤ n)
    : scanValue n (gs ++ rest) = (t, .ok rest) := by
  cases n with
  | zero =>
    have hpos := h.length_pos
    omega
  | succ n =>
    cases h with
    | null => exact scanWord_append .null "ull" rest
    | @bool b =>
      cases b with
      | true => exact scanWord_append (.bool true) "rue" rest
      | false => exact scanWord_append (.bool false) "alse" rest
    | @number m s h =>
      rcases m with ⟨_ | _, ds, fs, e⟩
      . rcases h.exists_cons with ⟨c, s', rfl, hc⟩
        rw [← scanNumber_append h hrest]
        apply scanValue_digit hc n _
      . apply scanNumber_append h hrest
    | @string ps gs h =>
      change (let (q, rest) := Quotation.scan (gs ++ rest); (Tree.string q, rest)) = _
      rw [Quotation.scan_append h]
    | @array ts gs h =>
      change (let (items, rest) := scanItems n true (gs ++ rest)
        (Tree.array items (brokenBy rest), rest)) = _
      rw [scanItems_append h rest n (by simp at hn; omega)]
      rfl
    | @object ms gs h =>
      change (let (members, rest) := scanMembers n true (gs ++ rest)
        (Tree.object members (brokenBy rest), rest)) = _
      rw [scanMembers_append h rest n (by simp at hn; omega)]
      rfl
termination_by n

theorem scanItems_append {first : Bool} {ts : List Tree} {gs : List Glyph}
    (h : SpellsItems first ts gs) (rest : List Glyph) (n : Nat) (hn : 3 * gs.length ≤ n)
    : scanItems n first (gs ++ rest) = (ts, .ok rest) := by
  cases n with
  | zero =>
    have hpos := h.length_pos
    omega
  | succ n =>
    cases h with
    | close hws =>
      rw [List.append_assoc, scanItems_skipGap hws]
      rfl
    | @first t ts ws gs gs' hws ht hts =>
      rw [List.append_assoc, scanItems_skipGap hws]
      have hitem := scanItem_append ht hts rest n (by simp at hn ⊢; omega)
      -- A value does not start with the closing bracket, so there is an item.
      rcases ht.exists_cons with ⟨g, gs'', rfl, hg⟩
      rw [← hitem]
      apply scanItems_first hg n _
    | @next t ts ws ws' gs gs' hws hws' ht hts =>
      rw [List.append_assoc, scanItems_skipGap hws]
      have hitem := scanItem_append ht hts rest n (by simp at hn ⊢; omega)
      rw [← hitem, ← scanItem_skipGap hws', List.cons_append, List.append_assoc]
      rfl
termination_by n

theorem scanItem_append {t : Tree} {ts : List Tree} {gs gs' : List Glyph} (ht : Spells t gs)
    (hts : SpellsItems false ts gs') (rest : List Glyph) (n : Nat)
    (hn : 3 * (gs ++ gs').length ≤ n + 1)
    : scanItem n (gs ++ gs' ++ rest) = (t :: ts, .ok rest) := by
  have hpos := hts.length_pos
  have hpos' := ht.length_pos
  rw [List.length_append] at hn
  cases n with
  | zero => omega
  | succ n =>
    rw [List.append_assoc]
    rw [scanItem.eq_def]
    dsimp only
    rw [scanValue_append ht (hts.ends rest) n (by omega)]
    dsimp only
    rw [scanItems_append hts rest n (by omega)]
termination_by n

theorem scanMembers_append {first : Bool} {ms : List (Quotation × Tree)} {gs : List Glyph}
    (h : SpellsMembers first ms gs) (rest : List Glyph) (n : Nat) (hn : 3 * gs.length ≤ n)
    : scanMembers n first (gs ++ rest) = (ms, .ok rest) := by
  cases n with
  | zero =>
    have hpos := h.length_pos
    omega
  | succ n =>
    cases h with
    | close hws =>
      rw [List.append_assoc, scanMembers_skipGap hws]
      rfl
    | @first m ms ws gs gs' hws hm hms =>
      rw [List.append_assoc, scanMembers_skipGap hws]
      have hmember := scanMember_append hm hms rest n (by simp at hn ⊢; omega)
      rw [← hmember]
      cases hm
      rfl
    | @next m ms ws ws' gs gs' hws hws' hm hms =>
      rw [List.append_assoc, scanMembers_skipGap hws]
      have hmember := scanMember_append hm hms rest n (by simp at hn ⊢; omega)
      rw [← hmember, ← scanMember_skipGap hws', List.cons_append, List.append_assoc]
      rfl
termination_by n

theorem scanMember_append {m : Quotation × Tree} {ms : List (Quotation × Tree)}
    {gs gs' : List Glyph} (hm : SpellsMember m gs) (hms : SpellsMembers false ms gs')
    (rest : List Glyph) (n : Nat) (hn : 3 * (gs ++ gs').length ≤ n + 1)
    : scanMember n (gs ++ gs' ++ rest) = (m :: ms, .ok rest) := by
  have hpos := hms.length_pos
  cases hm with
  | @mk ps t ks ws ws' gs hk hws hws' ht =>
    simp only [List.length_append, List.length_cons] at hn
    cases n with
    | zero => omega
    | succ n =>
      have hvalue := scanValue_append ht (hms.ends rest) n (by omega)
      simp only [List.append_assoc, List.cons_append]
      rw [scanMember.eq_def]
      dsimp only
      rw [skipGap_cons rfl]
      simp only
      rw [Quotation.scan_append hk]
      dsimp only
      rw [skipGap_append hws, skipGap_cons rfl]
      simp only
      rw [scanValue_skipGap hws', hvalue]
      dsimp only
      rw [scanMembers_append hms rest n (by omega)]
termination_by n

end

theorem scan_append {t : Tree} {gs : List Glyph} (h : Spells t gs) {ws ws' : List Glyph}
    (hws : IsGap ws) (hws' : IsGap ws')
    : scan (ws ++ gs ++ ws') = (t, .ok ws') := by
  have hends : Numeral.Ends ws' := by
    rw [← List.append_nil ws']
    apply ends_append hws'
    intro c hc
    cases hc
  unfold scan
  rw [List.append_assoc, scanValue_skipGap hws]
  apply scanValue_append h hends
  simp only [List.length_append]
  omega

theorem atEnd_of_isGap {ws : List Glyph} (hws : IsGap ws) : atEnd (.ok ws) = .ok () := by
  unfold atEnd
  dsimp only
  have hskip := skipGap_append hws []
  rw [List.append_nil] at hskip
  rw [hskip]
  rfl

end Tree

end Scaffold
