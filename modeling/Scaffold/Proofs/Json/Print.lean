import Scaffold.Proofs.Json.Scan
import Scaffold.Proofs.Text.Words

/-!
This module contains the tree of a value and the proof that the printed form of the value is one of
the ways to write this tree.
-/

namespace Scaffold

namespace Json

inductive IsIntegral : Json → Prop where
  | null : IsIntegral .null
  | bool {b : Bool} : IsIntegral (.bool b)
  | number {i : Int} : IsIntegral (.number (.integer i))
  | string {s : Text} : IsIntegral (.string s)
  | array {items : List Json} (h : ∀ t ∈ items, IsIntegral t) : IsIntegral (.array items)
  | object {members : List (Text × Json)} (h : ∀ m ∈ members, IsIntegral m.2)
    : IsIntegral (.object members)

mutual

/--
The tree that is scanned from the printed form of a value whose numbers are integers.
-/
def tree : Json → Tree
  | null => .null
  | bool b => .bool b
  | number (.integer i) => .number ⟨i < 0, Nat.toDigits 10 i.natAbs, [], none⟩
  | number (.float _) => .fault .malformed
  | string s => .string (.ofText s)
  | array items => .array (trees items) none
  | object members => .object (memberTrees members) none

def trees : List Json → List Tree
  | [] => []
  | t :: ts => t.tree :: trees ts

def memberTrees : List (Text × Json) → List (Quotation × Tree)
  | [] => []
  | (k, t) :: ms => (.ofText k, t.tree) :: memberTrees ms

end

theorem isGap_newline (depth : Nat) : Tree.IsGap (Text.glyphs (newline depth)) := by
  intro g hg
  unfold newline at hg
  rw [Text.glyphs_cons, List.mem_cons] at hg
  cases hg with
  | inl h =>
    subst h
    decide
  | inr h =>
    rcases List.mem_map.1 h with ⟨c, hc, rfl⟩
    rw [List.eq_of_mem_replicate hc]
    decide

theorem isGap_nil : Tree.IsGap [] := by
  intro g hg
  cases hg

theorem isGap_space : Tree.IsGap [.char ' '] := by
  intro g hg
  rw [List.mem_singleton] at hg
  subst hg
  decide

theorem isDigits_toDigits (n : Nat) : Numeral.IsDigits (Nat.toDigits 10 n) := by
  constructor
  . apply Nat.toDigits_ne_nil
  . intro c hc
    apply Nat.isDigit_of_mem_toDigits (b := 10) (n := n)
    . omega
    . omega
    . exact hc

theorem digitChar_ne_zero : ∀ n < 10, n ≠ 0 → n.digitChar ≠ '0' := by
  decide

theorem head?_toDigits_ne_zero (n : Nat) (hn : n ≠ 0) : (Nat.toDigits 10 n).head? ≠ some '0' := by
  induction n using Nat.strongRecOn with
  | _ n ih =>
    by_cases h : n < 10
    . rw [Nat.toDigits_of_lt_base h]
      intro hzero
      rw [List.head?_cons, Option.some_inj] at hzero
      apply digitChar_ne_zero n h hn hzero
    . rw [Nat.toDigits_of_base_le (by omega) (by omega)]
      -- The digits in front of the last one are those of a smaller number.
      intro hzero
      rw [List.head?_append, Option.or_eq_some_iff] at hzero
      cases hzero with
      | inl hzero => exact ih (n / 10) (by omega) (by omega) hzero
      | inr hzero => exact Nat.toDigits_ne_nil (List.head?_eq_none_iff.1 hzero.1)

/--
Among the numbers in decimal digits, only zero starts with a zero.
-/
theorem length_toDigits_of_head? {n : Nat} (h : (Nat.toDigits 10 n).head? = some '0')
    : (Nat.toDigits 10 n).length = 1 := by
  cases n with
  | zero => rfl
  | succ n => exact absurd h (head?_toDigits_ne_zero (n + 1) (by omega))

theorem spells_numberText (i : Int)
    : Tree.Spells (.number ⟨i < 0, Nat.toDigits 10 i.natAbs, [], none⟩)
        (Text.glyphs (numberText (.integer i))) := by
  have hspells : Numeral.Spells ⟨i < 0, Nat.toDigits 10 i.natAbs, [], none⟩
      (Nat.toDigits 10 i.natAbs ++ []) := by
    apply Numeral.Spells.whole
    . apply isDigits_toDigits _
    . exact length_toDigits_of_head?
    . exact .absent
  have hnumber := Tree.Spells.number hspells
  rw [List.append_nil] at hnumber
  unfold numberText
  unfold Numeral.sign at hnumber
  dsimp only at hnumber ⊢
  split
  . next h => simpa [h] using hnumber
  . next h => simpa [h] using hnumber

theorem spells_member {t : Tree} {s : Text} (ht : Tree.Spells t (Text.glyphs s)) (k : Text)
    : Tree.SpellsMember (.ofText k, t) (Text.glyphs (quote k ++ ": ".toList ++ s)) := by
  have hmember := Tree.SpellsMember.mk (Quotation.spells_map_pieceOf k) isGap_nil isGap_space ht
  rw [String.toList_ofList]
  simpa [quote, Quotation.ofText] using hmember

/-
The printed items of an array and members of an object. All but the first one stand behind a comma,
with which a printed list that still goes on starts.
-/
section Enclosed

variable (depth depth' : Nat)

theorem spellsItems_tail {ts : List Json}
    (h : ∀ t ∈ ts, ∀ depth, Tree.Spells t.tree (Text.glyphs (t.pretty depth)))
    : Tree.SpellsItems false (trees ts)
        (Text.glyphs ((prettyItems depth ts).flatMap ([','] ++ ·) ++ newline depth' ++ [']'])) := by
  induction ts with
  | nil =>
    have hclose := @Tree.SpellsItems.close false _ (isGap_newline depth')
    simpa [prettyItems, trees] using hclose
  | cons t ts ih =>
    have htail := ih fun t ht => h t (List.mem_cons_of_mem _ ht)
    have hnext := Tree.SpellsItems.next isGap_nil (isGap_newline depth) (h t (by simp) depth) htail
    simpa [prettyItems, trees] using hnext

theorem spells_enclose_items {ts : List Json}
    (h : ∀ t ∈ ts, ∀ depth, Tree.Spells t.tree (Text.glyphs (t.pretty depth)))
    : Tree.Spells (.array (trees ts) none)
        (Text.glyphs (enclose '[' ']' depth' (prettyItems depth ts))) := by
  cases ts with
  | nil => exact .array (.close isGap_nil)
  | cons t ts =>
    have htail := spellsItems_tail depth depth' fun t ht => h t (List.mem_cons_of_mem _ ht)
    have hfirst := Tree.SpellsItems.first (isGap_newline depth) (h t (by simp) depth) htail
    have harray := Tree.Spells.array hfirst
    simpa [prettyItems, trees, enclose, Text.join_cons] using harray

theorem spellsMembers_tail {ms : List (Text × Json)}
    (h : ∀ m ∈ ms, ∀ depth, Tree.Spells m.2.tree (Text.glyphs (m.2.pretty depth)))
    : Tree.SpellsMembers false (memberTrees ms)
        (Text.glyphs ((prettyMembers depth ms).flatMap ([','] ++ ·) ++ newline depth' ++
          ['\x7d'])) := by
  induction ms with
  | nil =>
    have hclose := @Tree.SpellsMembers.close false _ (isGap_newline depth')
    simpa [prettyMembers, memberTrees] using hclose
  | cons m ms ih =>
    have htail := ih fun m hm => h m (List.mem_cons_of_mem _ hm)
    have hmember := spells_member (h m (by simp) depth) m.1
    have hnext := Tree.SpellsMembers.next isGap_nil (isGap_newline depth) hmember htail
    simpa [prettyMembers, memberTrees] using hnext

theorem spells_enclose_members {ms : List (Text × Json)}
    (h : ∀ m ∈ ms, ∀ depth, Tree.Spells m.2.tree (Text.glyphs (m.2.pretty depth)))
    : Tree.Spells (.object (memberTrees ms) none)
        (Text.glyphs (enclose '\x7b' '\x7d' depth' (prettyMembers depth ms))) := by
  cases ms with
  | nil => exact .object (.close isGap_nil)
  | cons m ms =>
    have htail := spellsMembers_tail depth depth' fun m hm => h m (List.mem_cons_of_mem _ hm)
    have hmember := spells_member (h m (by simp) depth) m.1
    have hfirst := Tree.SpellsMembers.first (isGap_newline depth) hmember htail
    have hobject := Tree.Spells.object hfirst
    simpa [prettyMembers, memberTrees, enclose, Text.join_cons] using hobject

end Enclosed

theorem spells_pretty {t : Json} (h : t.IsIntegral) (depth : Nat)
    : Tree.Spells t.tree (Text.glyphs (t.pretty depth)) := by
  induction h generalizing depth with
  | null => exact .null
  | bool => exact .bool
  | number => exact spells_numberText _
  | string => exact .string (Quotation.spells_map_pieceOf _)
  | array _ ih => exact spells_enclose_items (depth + 1) depth ih
  | object _ ih => exact spells_enclose_members (depth + 1) depth ih

end Json

end Scaffold
