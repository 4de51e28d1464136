import Scaffold.Proofs.Json.Recognition
import Scaffold.Proofs.Spec.PartRewriting
import Scaffold.Proofs.Spec.Document

/-!
This module contains the ways in which the document of a specification can be written differently,
and the proof that they make no difference to what is read.
-/

namespace Scaffold

class RecordForms (κ : Type) [RecordKey κ] where
  absent? : κ → Option Tree
  isFields : κ → Bool
  read_absent (k : κ) : (absent? k).map (RecordKey.read k) = (RecordKey.default? k).map .ok
  read_rewrite {k : κ} {t t' : Tree} {v : RecordKey.Content k} (hk : isFields k = true)
    (h : FieldList.Rewrite t t') (ht : RecordKey.read k t = .ok v) : RecordKey.read k t' = .ok v

open RecordKey RecordForms

variable {κ : Type} [RecordKey κ]

namespace Json

theorem trees_eq_map (ts : List Json) : trees ts = ts.map tree := by
  induction ts with
  | nil => rfl
  | cons t ts ih => rw [trees, ih, List.map_cons]

theorem memberTrees_eq_map (ms : List (Text × Json))
    : memberTrees ms = ms.map fun m => (.ofText m.1, m.2.tree) := by
  induction ms with
  | nil => rfl
  | cons m ms ih => rw [memberTrees, ih, List.map_cons]

end Json

namespace Record

theorem key?_eq_some_iff {s : Text} {k : κ} : key? s = some k ↔ s = name k := by
  constructor
  . intro h
    have hname := List.find?_some h
    rw [decide_eq_true_eq] at hname
    exact hname.symm
  . rintro rfl
    exact key?_name k

theorem key?_eq_none_iff {s : Text} : key? (κ := κ) s = none ↔ ∀ k : κ, s ≠ name k := by
  rw [Option.eq_none_iff_forall_ne_some]
  simp only [Ne, key?_eq_some_iff]

section Forms

variable [RecordForms κ]

/--
Whether a tree is written for a part where the members of an object are written one after another:
the value of its member, or what stands for it if it has none.
-/
def IsItem (ms : List (Quotation × Tree)) (k : κ) (t : Tree) : Prop :=
  (∃ q, (q, t) ∈ ms ∧ q.text = .ok (name k)) ∨
    ((∀ m ∈ ms, m.1.text ≠ .ok (name k)) ∧ absent? k = some t)

/--
The ways to write a record differently: the members of its object change their places, or one that
belongs to no part is put between them; an array of all parts is written for the object; or a field
list is written differently.
-/
inductive Rewrite (κ : Type) [RecordKey κ] [RecordForms κ] : Tree → Tree → Prop where
  | permute {ms ms' : List (Quotation × Tree)} (h : ms.Perm ms')
    : Rewrite κ (.object ms none) (.object ms' none)
  | insert {ms ms' : List (Quotation × Tree)} {q : Quotation} {t : Tree} {s : Text}
      {gs : List Glyph} (hq : q.text = .ok s) (hs : ∀ k : κ, s ≠ name k) (ht : t.Spells gs)
    : Rewrite κ (.object (ms ++ ms') none) (.object (ms ++ (q, t) :: ms') none)
  | listed {ms : List (Quotation × Tree)} {ts : List Tree}
      (h : List.Forall₂ (IsItem ms) (all (κ := κ)) ts)
    : Rewrite κ (.object ms none) (.array ts none)
  | member {ms ms' : List (Quotation × Tree)} {q : Quotation} {t t' : Tree} {k : κ}
      (hq : q.text = .ok (name k)) (hk : isFields k = true) (h : FieldList.Rewrite t t')
    : Rewrite κ (.object (ms ++ (q, t) :: ms') none) (.object (ms ++ (q, t') :: ms') none)
  | item {ts us : List Tree} {t t' : Tree} {k : κ} (hk : (all (κ := κ))[ts.length]? = some k)
      (hfields : isFields k = true) (h : FieldList.Rewrite t t')
    : Rewrite κ (.array (ts ++ t :: us) none) (.array (ts ++ t' :: us) none)

theorem Writer.rewrite_listed {r : Record κ} (w : Writer r)
    (h : ∀ k, w.isWritten k = false → absent? k = some (w.part k).tree)
    : Rewrite κ w.toJson.tree (Json.array (all.map w.part)).tree := by
  unfold Writer.toJson
  rw [Json.tree, Json.tree, Json.trees_eq_map, List.map_map]
  apply Rewrite.listed
  rw [List.forall₂_map_right_iff, List.forall₂_same]
  intro k _
  cases hk : w.isWritten k with
  | true =>
    left
    refine ⟨.ofText (name k), ?_, Quotation.text_ofText _⟩
    rw [Json.memberTrees_eq_map, List.map_map, List.mem_map]
    exact ⟨k, List.mem_filter.2 ⟨mem_all k, hk⟩, rfl⟩
  | false =>
    right
    refine ⟨?_, h k hk⟩
    intro m hm
    rw [Json.memberTrees_eq_map, List.map_map] at hm
    rcases List.mem_map.1 hm with ⟨j, hj, rfl⟩
    have hwritten := (List.mem_filter.1 hj).2
    change (Quotation.ofText (name j)).text ≠ _
    rw [Quotation.text_ofText, Ne, Except.ok.injEq]
    intro hname
    have hjk : j = k := List.inj_on_of_nodup_map nodup_names (mem_all j) (mem_all k) hname
    rw [hjk, hk] at hwritten
    cases hwritten

end Forms

end Record

variable [DecidableEq κ]

theorem Draft.set_comm (d : Draft κ) {k j : κ} (hkj : k ≠ j) (v : Content k) (w : Content j)
    : (d.set k v).set j w = (d.set j w).set k v := by
  funext i
  by_cases hk : k = i
  . subst hk
    rw [set_of_ne _ _ hkj.symm, set_self, set_self]
  . by_cases hj : j = i
    . subst hj
      rw [set_of_ne _ _ hk, set_self, set_self]
    . rw [set_of_ne _ _ hj, set_of_ne _ _ hk, set_of_ne _ _ hk, set_of_ne _ _ hj]

namespace Record

namespace Reads

variable {d d' : Draft κ} {ms ms' : List (Quotation × Tree)} {q : Quotation} {t : Tree} {k : κ}

theorem swap {m m' : Quotation × Tree} (h : Reads d (m :: m' :: ms) d')
    : Reads d (m' :: m :: ms) d' := by
  cases h with
  | skip hq hs ht h =>
    cases h with
    | skip hq' hs' ht' h => exact .skip hq' hs' ht' (.skip hq hs ht h)
    | part hq' hs' hd' ht' h => exact .part hq' hs' hd' ht' (.skip hq hs ht h)
  | @part _ _ q t _ s k v hq hs hd ht h =>
    cases h with
    | skip hq' hs' ht' h => exact .skip hq' hs' ht' (.part hq hs hd ht h)
    | @part _ _ q' t' _ s' j w hq' hs' hd' ht' h =>
      -- The second part had not come up when the first one had, so they are different ones.
      have hkj : k ≠ j := by
        rintro rfl
        rw [Draft.set_self] at hd'
        cases hd'
      rw [Draft.set_of_ne _ _ hkj] at hd'
      rw [Draft.set_comm _ hkj] at h
      apply Reads.part hq' hs' hd' ht'
      apply Reads.part hq hs _ ht h
      rw [Draft.set_of_ne _ _ hkj.symm]
      exact hd

theorem perm (h : Reads d ms d') (hperm : ms.Perm ms') : Reads d ms' d' := by
  induction hperm generalizing d with
  | nil => exact h
  | cons m _ ih =>
    cases h with
    | skip hq hs ht h => exact .skip hq hs ht (ih h)
    | part hq hs hd ht h => exact .part hq hs hd ht (ih h)
  | swap m m' ms => exact h.swap
  | trans _ _ ih ih' => exact ih' (ih h)

theorem eq_some_of_eq_some (h : Reads d ms d') {v : Content k} (hk : d k = some v)
    : d' k = some v := by
  induction h with
  | done => exact hk
  | skip _ _ _ _ ih => exact ih hk
  | @part d d' q t ms s j w hq hs hd ht h ih =>
    apply ih
    rw [Draft.set_of_ne]
    . exact hk
    . rintro rfl
      rw [hd] at hk
      cases hk

theorem read_of_mem (h : Reads d ms d') (hmem : (q, t) ∈ ms) (hq : q.text = .ok (name k))
    : ∃ v, read k t = .ok v ∧ d' k = some v := by
  induction h with
  | done => cases hmem
  | skip hq' hs ht h ih =>
    cases hmem with
    | head =>
      rw [hq', Except.ok.injEq] at hq
      exact absurd hq (key?_eq_none_iff.1 hs k)
    | tail _ hmem => exact ih hmem
  | @part d d' q' t' ms s j w hq' hs hd ht h ih =>
    cases hmem with
    | head =>
      rw [hq', Except.ok.injEq, key?_eq_some_iff.1 hs] at hq
      have hjk : j = k := List.inj_on_of_nodup_map nodup_names (mem_all j) (mem_all k) hq
      subst hjk
      exact ⟨w, ht, h.eq_some_of_eq_some (Draft.set_self _ _ _)⟩
    | tail _ hmem => exact ih hmem

theorem eq_of_not_mem (h : Reads d ms d') (hmem : ∀ m ∈ ms, m.1.text ≠ .ok (name k))
    : d' k = d k := by
  induction h with
  | done => rfl
  | skip _ _ _ _ ih => exact ih fun m hm => hmem m (List.mem_cons_of_mem _ hm)
  | @part d d' q' t' ms s j w hq' hs hd ht h ih =>
    rw [ih fun m hm => hmem m (List.mem_cons_of_mem _ hm), Draft.set_of_ne]
    rintro rfl
    apply hmem _ List.mem_cons_self
    rw [hq', key?_eq_some_iff.1 hs]

theorem replace {t' : Tree} (h : Reads d (ms ++ (q, t) :: ms') d') (hq : q.text = .ok (name k))
    (hread : ∀ v, read k t = .ok v → read k t' = .ok v)
    : Reads d (ms ++ (q, t') :: ms') d' := by
  have hfront := h.perm List.perm_middle
  apply Reads.perm _ List.perm_middle.symm
  cases hfront with
  | skip hq' hs ht h =>
    rw [hq', Except.ok.injEq] at hq
    exact absurd hq (key?_eq_none_iff.1 hs k)
  | @part _ _ _ _ _ s j w hq' hs hd ht h =>
    rw [hq', Except.ok.injEq] at hq
    subst hq
    rw [key?_name, Option.some.injEq] at hs
    subst hs
    exact .part hq' (key?_name _) hd (hread _ ht) h

end Reads

theorem readItems_of_forall₂ {r : Record κ} {ks : List κ} {ts : List Tree}
    (h : List.Forall₂ (fun k t => read k t = .ok (r k)) ks ts) (index : Nat) (d : Draft κ)
    : ∃ d', readItems none index d ks ts = .ok d' ∧
        ∀ k, d' k = if k ∈ ks then some (r k) else d k := by
  induction h generalizing index d with
  | nil => exact ⟨d, rfl, by simp⟩
  | @cons k t ks ts ht _ ih =>
    rcases ih (index + 1) (d.set k (r k)) with ⟨d', hd', hall⟩
    refine ⟨d', ?_, ?_⟩
    . unfold readItems
      rw [ht, Except.ok_bind]
      exact hd'
    . intro j
      rw [hall]
      by_cases hj : k = j
      . subst hj
        simp
      . have hj' : ¬j = k := fun h => hj h.symm
        simp [Draft.set_of_ne _ _ hj, hj']

theorem readItems_replace {index : Nat} {d d' : Draft κ} {ks : List κ} {ts us : List Tree}
    {t t' : Tree} {k : κ} (h : readItems none index d ks (ts ++ t :: us) = .ok d')
    (hk : ks[ts.length]? = some k) (hread : ∀ v, read k t = .ok v → read k t' = .ok v)
    : readItems none index d ks (ts ++ t' :: us) = .ok d' := by
  induction ts generalizing index d ks with
  | nil =>
    cases ks with
    | nil => cases hk
    | cons j ks =>
      cases hk
      rw [List.nil_append] at h ⊢
      unfold readItems at h ⊢
      rw [Except.bind_eq_ok_iff] at h
      rcases h with ⟨v, hv, h⟩
      rw [hread v hv, Except.ok_bind]
      exact h
  | cons u ts ih =>
    cases ks with
    | nil => cases hk
    | cons j ks =>
      rw [List.cons_append] at h ⊢
      unfold readItems at h ⊢
      rw [Except.bind_eq_ok_iff] at h
      rcases h with ⟨v, hv, h⟩
      rw [hv, Except.ok_bind]
      exact ih h hk

theorem ofTree_object_eq_ok_iff {ms : List (Quotation × Tree)} {r : Record κ}
    : ofTree (.object ms none) = .ok r ↔ ∃ d, Reads Draft.empty ms d ∧ ∀ k, d.get? k = some (r k) := by
  have hclose : Tree.close none = .ok () := rfl
  rw [ofTree, hclose]
  simp only [Except.bind_eq_ok_iff, readMembers_eq_ok_iff, Except.mapError_ok, Except.ok_bind,
    Draft.complete_eq_ok_iff]

theorem ofTree_array_eq_ok_iff {ts : List Tree} {r : Record κ}
    : ofTree (.array ts none) = .ok r ↔
        ∃ d, readItems none 0 Draft.empty all ts = .ok d ∧ ∀ k, d.get? k = some (r k) := by
  unfold ofTree
  simp only [Except.bind_eq_ok_iff, Draft.complete_eq_ok_iff]

theorem ofDocument_eq_ok_iff {bytes : Bytes} {r : Record κ}
    : ofDocument bytes = .ok r ↔
        ∃ t, Tree.IsWritten t (Utf8.decode bytes) ∧ Record.ofTree t = .ok r := by
  simp only [Tree.isWritten_iff]
  unfold ofDocument
  rcases Tree.scan (Utf8.decode bytes) with ⟨t, rest⟩
  simp only [Except.bind_eq_ok_iff, Except.mapError_eq_ok_iff]
  constructor
  . intro h
    rcases h with ⟨r', hr, ⟨⟩, hend, heq⟩
    cases heq
    exact ⟨t, ⟨rest, rfl, hend⟩, hr⟩
  . intro h
    rcases h with ⟨t', ⟨rest', heq, hend⟩, hr⟩
    cases heq
    exact ⟨r, hr, (), hend, rfl⟩

variable [RecordForms κ]

theorem read_of_isItem {ms : List (Quotation × Tree)} {d : Draft κ} {r : Record κ}
    (hd : Reads Draft.empty ms d) (hr : ∀ k, d.get? k = some (r k)) {k : κ} {t : Tree}
    (h : IsItem ms k t)
    : read k t = .ok (r k) := by
  have hk := hr k
  unfold Draft.get? at hk
  rcases h with ⟨q, hmem, hq⟩ | ⟨hmem, habsent⟩
  . rcases hd.read_of_mem hmem hq with ⟨v, hv, hdk⟩
    rw [hdk, Option.some_or, Option.some.injEq] at hk
    rw [hv, hk]
  . rw [hd.eq_of_not_mem hmem] at hk
    change default? k = some (r k) at hk
    have hread := read_absent k
    rw [habsent, hk] at hread
    exact Option.some.inj hread

theorem Rewrite.ofTree {t t' : Tree} {r : Record κ} (h : Rewrite κ t t')
    (ht : Record.ofTree t = .ok r)
    : Record.ofTree t' = .ok r := by
  cases h with
  | permute h =>
    rw [ofTree_object_eq_ok_iff] at ht ⊢
    rcases ht with ⟨d, hd, hr⟩
    exact ⟨d, hd.perm h, hr⟩
  | insert hq hs hskip =>
    rw [ofTree_object_eq_ok_iff] at ht ⊢
    rcases ht with ⟨d, hd, hr⟩
    have hinsert := Reads.skip hq (key?_eq_none_iff.2 hs) hskip.skip_eq hd
    exact ⟨d, hinsert.perm List.perm_middle.symm, hr⟩
  | listed h =>
    rw [ofTree_object_eq_ok_iff] at ht
    rw [ofTree_array_eq_ok_iff]
    rcases ht with ⟨d, hd, hr⟩
    have hitems := h.imp fun k t => read_of_isItem hd hr
    rcases readItems_of_forall₂ hitems 0 Draft.empty with ⟨d', hd', hall⟩
    refine ⟨d', hd', ?_⟩
    intro k
    unfold Draft.get?
    rw [hall, if_pos (mem_all k)]
    rfl
  | member hq hk h =>
    rw [ofTree_object_eq_ok_iff] at ht ⊢
    rcases ht with ⟨d, hd, hr⟩
    exact ⟨d, hd.replace hq fun _ => read_rewrite hk h, hr⟩
  | item hk hfields h =>
    rw [ofTree_array_eq_ok_iff] at ht ⊢
    rcases ht with ⟨d, hd, hr⟩
    exact ⟨d, readItems_replace hd hk fun _ => read_rewrite hfields h, hr⟩

/--
Whether the second document writes the record of the first one differently, or only has other gaps.
-/
def DocumentRewrite (κ : Type) [RecordKey κ] [RecordForms κ] (bytes bytes' : Bytes) : Prop :=
  ∃ t t', Tree.IsWritten t (Utf8.decode bytes) ∧ Tree.IsWritten t' (Utf8.decode bytes') ∧
    (t = t' ∨ Rewrite κ t t')

theorem DocumentRewrite.ofDocument {bytes bytes' : Bytes} {r : Record κ}
    (h : DocumentRewrite κ bytes bytes') (hr : Record.ofDocument bytes = .ok r)
    : Record.ofDocument bytes' = .ok r := by
  rw [ofDocument_eq_ok_iff] at hr ⊢
  rcases h with ⟨t, t', ht, ht', hrewrite⟩
  rcases hr with ⟨u, hu, hr⟩
  have hut : u = t := hu.unique ht
  subst hut
  rcases hrewrite with rfl | hrewrite
  . exact ⟨u, ht', hr⟩
  . exact ⟨t', ht', hrewrite.ofTree hr⟩

end Record

instance : RecordForms ObligationKey where
  absent?
    | .name => none
    | .hasVerification => some (.bool false)
    | .isRevocable => some (.bool false)
    | .termCount => some (Json.number (.integer 0)).tree
    | .dataFields => none
    | .demandFields => some .null
  isFields
    | .dataFields => true
    | .demandFields => true
    | _ => false
  read_absent k := by
    cases k with
    | termCount => exact congrArg some (Tree.asCount_number 0)
    | _ => rfl
  read_rewrite {k t t' v} hk h ht := by
    cases k with
    | dataFields => exact h.asFields ht
    | demandFields => exact h.asOption ht
    | _ => cases hk

instance : RecordForms ArbiterKey where
  absent?
    | .name => none
    | .base => some .null
    | .demandFields => none
  isFields
    | .demandFields => true
    | _ => false
  read_absent k := by
    cases k with
    | _ => rfl
  read_rewrite {k t t' v} hk h ht := by
    cases k with
    | demandFields => exact h.asFields ht
    | _ => cases hk

namespace Arbiter

theorem rewrite_listed (a : Arbiter)
    : Record.Rewrite ArbiterKey a.toJson.tree (Json.array
        [.string a.name, a.base.elim .null .string, a.demandFields.toJson]).tree := by
  rw [toJson_eq_writer]
  apply a.writer.rewrite_listed
  intro k hk
  cases k with
  | base =>
    change a.base.isSome = false at hk
    rw [Option.isSome_eq_false_iff, Option.isNone_iff_eq_none] at hk
    change some Tree.null = some (a.base.elim Json.null Json.string).tree
    rw [hk]
    rfl
  | _ => cases hk

end Arbiter

namespace Spec

def DocumentRewrite : Kind → Bytes → Bytes → Prop
  | .obligation => Record.DocumentRewrite ObligationKey
  | .arbiter => Record.DocumentRewrite ArbiterKey

theorem DocumentRewrite.ofDocument {k : Kind} {bytes bytes' : Bytes} {s : Spec}
    (h : DocumentRewrite k bytes bytes') (hs : Spec.ofDocument bytes k = .ok s)
    : Spec.ofDocument bytes' k = .ok s := by
  cases k with
  | obligation =>
    rcases Except.map_eq_ok_iff.1 hs with ⟨r, hr, hs⟩
    exact Except.map_eq_ok_iff.2 ⟨r, Record.DocumentRewrite.ofDocument h hr, hs⟩
  | arbiter =>
    rcases Except.map_eq_ok_iff.1 hs with ⟨r, hr, hs⟩
    exact Except.map_eq_ok_iff.2 ⟨r, Record.DocumentRewrite.ofDocument h hr, hs⟩

end Spec

end Scaffold
