import Mathlib.Data.List.Nodup
import Scaffold.Proofs.Except
import Scaffold.Proofs.Json.Print
import Scaffold.Proofs.Text.Utf8
import Scaffold.Spec.Record

/-!
This module contains what it takes for the members of an object to make up a record, and the proof
that a record that is written as an object is read back.
-/

namespace Scaffold

open RecordKey

variable {κ : Type} [RecordKey κ]

namespace Draft

theorem complete_eq_ok_iff {d : Draft κ} {r : Record κ}
    : d.complete = .ok r ↔ ∀ k, d.get? k = some (r k) := by
  unfold complete
  split
  . next k hk =>
    constructor
    . intro h
      cases h
    . intro h
      have hnone := List.find?_some hk
      rw [h k] at hnone
      cases hnone
  . next hnone =>
    constructor
    . intro h
      cases h
      intro k
      simp
    . intro h
      congr 1
      funext k
      simp [h k]

end Draft

namespace Record

/--
A way to write a record as an object. Parts are left out only if they are what stands for them.
-/
structure Writer (r : Record κ) where
  part : κ → Json
  isWritten : κ → Bool
  isIntegral_part (k : κ) : (part k).IsIntegral
  read_part (k : κ) : read k (part k).tree = .ok (r k)
  default?_eq (k : κ) (h : isWritten k = false) : default? k = some (r k)

namespace Writer

variable {r : Record κ}

def toJson (w : Writer r) : Json :=
  .object ((all.filter w.isWritten).map fun k => (name k, w.part k))

theorem isIntegral_toJson (w : Writer r) : w.toJson.IsIntegral := by
  apply Json.IsIntegral.object
  intro m hm
  rcases List.mem_map.1 hm with ⟨k, hk, rfl⟩
  apply w.isIntegral_part k

end Writer

theorem key?_name (k : κ) : key? (name k) = some k := by
  unfold key?
  cases hfind : (all (κ := κ)).find? (fun j => decide (name j = name k)) with
  | none =>
    rw [List.find?_eq_none] at hfind
    exact absurd (decide_eq_true rfl) (hfind k (mem_all k))
  | some j =>
    have hname := List.find?_some hfind
    rw [decide_eq_true_eq] at hname
    rw [List.inj_on_of_nodup_map nodup_names (mem_all j) (mem_all k) hname]

variable [DecidableEq κ]

/--
The members of an object that can be read one after another, and the draft to which they lead. A
member belongs to a part that has not come up yet, or it is skipped.
-/
inductive Reads : Draft κ → List (Quotation × Tree) → Draft κ → Prop where
  | done {d : Draft κ} : Reads d [] d
  | skip {d d' : Draft κ} {q : Quotation} {t : Tree} {ms : List (Quotation × Tree)} {s : Text}
      (hq : q.text = .ok s) (hs : key? (κ := κ) s = none) (ht : t.skip = .ok ())
      (h : Reads d ms d') : Reads d ((q, t) :: ms) d'
  | part {d d' : Draft κ} {q : Quotation} {t : Tree} {ms : List (Quotation × Tree)} {s : Text}
      {k : κ} {v : Content k} (hq : q.text = .ok s) (hs : key? s = some k) (hd : d k = none)
      (ht : read k t = .ok v) (h : Reads (d.set k v) ms d') : Reads d ((q, t) :: ms) d'

theorem readMembers_eq_ok_iff {d d' : Draft κ} {ms : List (Quotation × Tree)}
    : readMembers d ms = .ok d' ↔ Reads d ms d' := by
  constructor
  . intro h
    induction ms generalizing d with
    | nil =>
      cases h
      exact .done
    | cons m ms ih =>
      unfold readMembers at h
      simp only [Except.bind_eq_ok_iff, Except.mapError_eq_ok_iff] at h
      rcases h with ⟨s, hq, h⟩
      split at h
      . next hs =>
        simp only [Except.unit_bind_eq_ok_iff, Except.mapError_eq_ok_iff] at h
        exact .skip hq hs h.1 (ih h.2)
      . next k hs =>
        split at h
        . cases h
        . next hd =>
          simp only [Except.bind_eq_ok_iff] at h
          rcases h with ⟨v, ht, h⟩
          apply Reads.part hq hs
          . simpa using hd
          . exact ht
          . apply ih h
  . intro h
    induction h with
    | done => rfl
    | skip hq hs ht h ih =>
      unfold readMembers
      rw [hq]
      simp [hs, ht, ih]
    | part hq hs hd ht h ih =>
      unfold readMembers
      rw [hq]
      simp [hs, hd, ht, ih]

theorem reads_memberTrees {r : Record κ} {part : κ → Json} {ks : List κ}
    (hread : ∀ k ∈ ks, read k (part k).tree = .ok (r k)) (hnodup : ks.Nodup) (d : Draft κ)
    (hd : ∀ k ∈ ks, d k = none)
    : ∃ d', Reads d (Json.memberTrees (ks.map fun k => (name k, part k))) d' ∧
        ∀ k, d' k = if k ∈ ks then some (r k) else d k := by
  induction ks generalizing d with
  | nil => exact ⟨d, .done, by simp⟩
  | cons k ks ih =>
    rw [List.nodup_cons] at hnodup
    -- No key comes up twice, so all parts behind this one are still missing.
    have hset : ∀ j ∈ ks, d.set k (r k) j = none := by
      intro j hj
      rw [Draft.set_of_ne]
      . apply hd
        simp [hj]
      . intro h
        subst h
        apply hnodup.1 hj
    rcases ih (fun j hj => hread j (by simp [hj])) hnodup.2 (d.set k (r k)) hset with ⟨d', hd', hall⟩
    refine ⟨d', ?_, ?_⟩
    . rw [List.map_cons, Json.memberTrees]
      apply Reads.part (Quotation.text_ofText _) (key?_name k)
      . apply hd
        simp
      . apply hread
        simp
      . exact hd'
    . intro j
      rw [hall]
      by_cases hj : k = j
      . subst hj
        simp
      . have hj' : ¬j = k := fun h => hj h.symm
        simp [Draft.set_of_ne _ _ hj, hj']

theorem ofDocument_pretty {t : Json} (ht : t.IsIntegral) {r : Record κ}
    (hr : ofTree t.tree = .ok r) : ofDocument (Utf8.encode (t.pretty 0 ++ ['\n'])) = .ok r := by
  have hgap : Tree.IsGap (Text.glyphs ['\n']) := by
    apply Json.isGap_newline 0
  have hscan := Tree.scan_append (Json.spells_pretty ht 0) Json.isGap_nil hgap
  rw [List.nil_append, ← Text.glyphs_append] at hscan
  unfold ofDocument
  rw [Utf8.decode_encode]
  rw [← Text.glyphs, hscan]
  dsimp only
  rw [hr, Tree.atEnd_of_isGap hgap]
  rfl

namespace Writer

variable {r : Record κ}

theorem ofTree_toJson (w : Writer r) : ofTree w.toJson.tree = .ok r := by
  have hnodup : (all.filter w.isWritten).Nodup := by
    apply List.Nodup.filter
    apply List.Nodup.of_map name
    exact nodup_names
  have hread : ∀ k ∈ all.filter w.isWritten, read k (w.part k).tree = .ok (r k) := by
    intro k hk
    apply w.read_part k
  rcases reads_memberTrees hread hnodup Draft.empty (by intro k hk; rfl) with ⟨d, hd, hall⟩
  have hcomplete : d.complete = .ok r := by
    rw [Draft.complete_eq_ok_iff]
    intro k
    unfold Draft.get?
    rw [hall]
    cases hk : w.isWritten k with
    | true => simp [hk, mem_all]
    | false => simp [hk, Draft.empty, w.default?_eq k hk]
  unfold toJson
  rw [Json.tree, ofTree]
  rw [readMembers_eq_ok_iff.2 hd]
  exact hcomplete

theorem ofDocument_toJson (w : Writer r)
    : ofDocument (Utf8.encode (w.toJson.pretty 0 ++ ['\n'])) = .ok r := by
  apply ofDocument_pretty
  . apply w.isIntegral_toJson
  . apply w.ofTree_toJson

end Writer

end Record

end Scaffold
