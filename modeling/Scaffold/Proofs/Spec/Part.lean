import Scaffold.Proofs.Json.Print
import Scaffold.Spec.Part

/-!
This module contains the proof that the parts of a record are read back from the values that they
are written as.
-/

namespace Scaffold

theorem Numeral.value?_natural {n : Nat} (hn : n < UInt64.size)
    : (⟨false, Nat.toDigits 10 n, [], none⟩ : Numeral).value? = some (.integer n) := by
  unfold value?
  dsimp only
  rw [Nat.ofDigitChars_ten_toDigits]
  rw [if_pos ⟨rfl, rfl, rfl, hn⟩]

namespace Field

theorem ofJson?_toJson (f : Field) : ofJson? f.toJson = some f := by
  unfold toJson ofJson?.typeKey ofJson?.nameKey
  rfl

theorem isIntegral_toJson (f : Field) : f.toJson.IsIntegral := by
  apply Json.IsIntegral.object
  intro m hm
  simp only [List.mem_cons, List.not_mem_nil, or_false] at hm
  rcases hm with rfl | rfl
  . exact .string
  . exact .string

theorem value_toJson (f : Field) (room : Nat) : f.toJson.tree.value (room + 1) = .ok f.toJson := by
  unfold toJson
  simp only [Json.tree, Json.memberTrees, Tree.value, Tree.memberValues]
  simp only [Quotation.text_ofText, Except.map_ok, Except.ok_bind]
  rfl

end Field

namespace FieldList

theorem ofJson_toJson (fs : FieldList) : ofJson fs.toJson = .ok fs := by
  have hfields : (fs.map Field.toJson).mapM Field.ofJson? = some fs := by
    induction fs with
    | nil => rfl
    | cons f fs ih =>
      rw [List.map_cons, List.mapM_cons]
      rw [Field.ofJson?_toJson, ih]
      rfl
  unfold ofJson toJson
  dsimp only
  rw [hfields]

theorem isIntegral_toJson (fs : FieldList) : fs.toJson.IsIntegral := by
  apply Json.IsIntegral.array
  intro t ht
  rcases List.mem_map.1 ht with ⟨f, hf, rfl⟩
  apply f.isIntegral_toJson

theorem values_toJson (fs : FieldList) (room : Nat)
    : Tree.values (room + 1) (Json.trees (fs.map Field.toJson)) = .ok (fs.map Field.toJson) := by
  induction fs with
  | nil => rfl
  | cons f fs ih =>
    rw [List.map_cons, Json.trees, Tree.values]
    rw [f.value_toJson, ih]
    rfl

theorem value_toJson (fs : FieldList) (room : Nat)
    : fs.toJson.tree.value (room + 2) = .ok fs.toJson := by
  unfold toJson
  rw [Json.tree, Tree.value]
  rw [fs.values_toJson]
  rfl

end FieldList

namespace Tree

theorem asText_string (s : Text) : asText (Json.string s).tree = .ok s := by
  rw [Json.tree, asText]
  rw [Quotation.text_ofText]
  rfl

theorem asFlag_bool (b : Bool) : asFlag (Json.bool b).tree = .ok b := by
  rw [Json.tree, asFlag]

theorem numberValue_natural {n : Nat} (hn : n < UInt64.size)
    : numberValue ⟨(n : Int) < 0, Nat.toDigits 10 (n : Int).natAbs, [], none⟩ =
        .ok (.integer n) := by
  unfold numberValue
  rw [Int.natAbs_natCast]
  have hsign : decide ((n : Int) < 0) = false := by simp
  rw [hsign]
  rw [Numeral.value?_natural hn]

theorem asCount_number (n : UInt64)
    : asCount (Json.number (.integer n.toNat)).tree = .ok n := by
  have hfound : (Json.number (.integer n.toNat)).tree.found =
      .ok (.number (.integer n.toNat)) := by
    rw [Json.tree, found]
    rw [numberValue_natural n.toNat_lt_size]
    rfl
  unfold asCount
  rw [hfound]
  simp

theorem asFields_toJson (fs : FieldList) : asFields fs.toJson.tree = .ok fs := by
  unfold asFields partRoom
  rw [fs.value_toJson]
  simp [fs.ofJson_toJson]

theorem asOption_elim {α : Type} {read : Tree → Except DocumentFault α} {write : α → Json}
    (hread : ∀ a, read (write a).tree = .ok a) (hnull : ∀ a, (write a).tree ≠ .null)
    (o : Option α) : asOption read (o.elim .null write).tree = .ok o := by
  cases o with
  | none => rfl
  | some a =>
    rw [Option.elim_some]
    unfold asOption
    split
    . next h => exact absurd h (hnull a)
    . rw [hread]
      rfl

end Tree

end Scaffold
