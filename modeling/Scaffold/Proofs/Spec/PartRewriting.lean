import Mathlib.Data.List.Perm.Basic
import Scaffold.Proofs.Spec.Part

/-!
This module contains the ways in which a field or a field list can be written differently, and the
proof that they make no difference to what is read.
-/

namespace Scaffold

theorem exists_mem_of_forall₂ {α β : Type} {R : α → β → Prop} {as : List α} {bs : List β}
    (h : List.Forall₂ R as bs) {a : α} (ha : a ∈ as)
    : ∃ b ∈ bs, R a b := by
  induction h with
  | nil => cases ha
  | cons hab _ ih =>
    cases ha with
    | head => exact ⟨_, List.mem_cons_self, hab⟩
    | tail _ ha =>
      rcases ih ha with ⟨b, hb, hab⟩
      exact ⟨b, List.mem_cons_of_mem _ hb, hab⟩

theorem forall₂_replace {α β : Type} {R : α → β → Prop} {as cs : List α} {a a' : α} {bs : List β}
    (h : List.Forall₂ R (as ++ a :: cs) bs) (ha : ∀ b, R a b → R a' b)
    : List.Forall₂ R (as ++ a' :: cs) bs := by
  induction as generalizing bs with
  | nil =>
    cases h with
    | cons hab hrest => exact .cons (ha _ hab) hrest
  | cons c as ih =>
    cases h with
    | cons hcb hrest => exact .cons hcb (ih hrest)

namespace Tree

theorem values_eq_ok_iff {room : Nat} {ts : List Tree} {vs : List Json}
    : values room ts = .ok vs ↔ List.Forall₂ (fun t v => t.value room = .ok v) ts vs := by
  induction ts generalizing vs with
  | nil => simp [values, eq_comm]
  | cons t ts ih =>
    unfold values
    simp only [Except.bind_eq_ok_iff, List.forall₂_cons_left_iff, ih]
    constructor
    . intro h
      rcases h with ⟨v, hv, us, hus, heq⟩
      cases heq
      exact ⟨v, us, hv, hus, rfl⟩
    . intro h
      rcases h with ⟨v, us, hv, hus, rfl⟩
      exact ⟨v, hv, us, hus, rfl⟩

theorem memberValues_eq_ok_iff {room : Nat} {ms : List (Quotation × Tree)}
    {vs : List (Text × Json)}
    : memberValues room ms = .ok vs ↔
        List.Forall₂ (fun m v => m.1.text = .ok v.1 ∧ m.2.value room = .ok v.2) ms vs := by
  induction ms generalizing vs with
  | nil => simp [memberValues, eq_comm]
  | cons m ms ih =>
    unfold memberValues
    simp only [Except.bind_eq_ok_iff, List.forall₂_cons_left_iff, ih]
    constructor
    . intro h
      rcases h with ⟨k, hk, v, hv, us, hus, heq⟩
      cases heq
      exact ⟨(k, v), us, ⟨hk, hv⟩, hus, rfl⟩
    . intro h
      rcases h with ⟨⟨k, v⟩, us, ⟨hk, hv⟩, hus, rfl⟩
      exact ⟨k, hk, v, hv, us, hus, rfl⟩

theorem value_array_eq_ok_iff {room : Nat} {ts : List Tree} {v : Json}
    : (array ts none).value (room + 1) = .ok v ↔
        ∃ vs, List.Forall₂ (fun t v => t.value room = .ok v) ts vs ∧ v = .array vs := by
  have hclose : close none = .ok () := rfl
  rw [value, hclose]
  simp only [Except.bind_eq_ok_iff, values_eq_ok_iff, Except.ok_bind]
  constructor
  . intro h
    rcases h with ⟨vs, hvs, heq⟩
    cases heq
    exact ⟨vs, hvs, rfl⟩
  . intro h
    rcases h with ⟨vs, hvs, rfl⟩
    exact ⟨vs, hvs, rfl⟩

theorem value_object_eq_ok_iff {room : Nat} {ms : List (Quotation × Tree)} {v : Json}
    : (object ms none).value (room + 1) = .ok v ↔
        ∃ vs, List.Forall₂ (fun m v => m.1.text = .ok v.1 ∧ m.2.value room = .ok v.2) ms vs ∧
          v = .object vs := by
  have hclose : close none = .ok () := rfl
  rw [value, hclose]
  simp only [Except.bind_eq_ok_iff, memberValues_eq_ok_iff, Except.ok_bind]
  constructor
  . intro h
    rcases h with ⟨vs, hvs, heq⟩
    cases heq
    exact ⟨vs, hvs, rfl⟩
  . intro h
    rcases h with ⟨vs, hvs, rfl⟩
    exact ⟨vs, hvs, rfl⟩

theorem value_string {room : Nat} {q : Quotation} {s : Text} (h : q.text = .ok s)
    : (string q).value room = .ok (.string s) := by
  rw [value, h]
  rfl

end Tree

namespace Field

open ofJson?

def IsRead (room : Nat) (t : Tree) (f : Field) : Prop :=
  ∃ v, t.value room = .ok v ∧ ofJson? v = some f

def IsRecord (t : Tree) (f : Field) : Prop :=
  ∃ q u p v, t = .object [(q, .string u), (p, .string v)] none ∧
    q.text = .ok typeKey ∧ u.text = .ok f.typeName ∧ p.text = .ok nameKey ∧ v.text = .ok f.name

/--
The ways to write a field differently: the members of its object change their places, or an array of
type and name is written for the object.
-/
inductive Rewrite : Tree → Tree → Prop where
  | permute {ms ms' : List (Quotation × Tree)} (h : ms.Perm ms')
    : Rewrite (.object ms none) (.object ms' none)
  | listed {ms : List (Quotation × Tree)} {q p : Quotation} {t n : Tree} (ht : (q, t) ∈ ms)
      (hq : q.text = .ok typeKey) (hn : (p, n) ∈ ms) (hp : p.text = .ok nameKey)
    : Rewrite (.object ms none) (.array [t, n] none)

theorem ofJson?_object_eq_some_iff {ms : List (Text × Json)} {f : Field}
    : ofJson? (.object ms) = some f ↔
        ∃ k j, ms.filter (fun m => m.1 = typeKey) = [(k, .string f.typeName)] ∧
          ms.filter (fun m => m.1 = nameKey) = [(j, .string f.name)] := by
  unfold ofJson?
  constructor
  . intro h
    dsimp only at h
    split at h
    . next k t j n ht hn =>
      cases h
      exact ⟨k, j, ht, hn⟩
    . cases h
  . intro h
    rcases h with ⟨k, j, ht, hn⟩
    dsimp only
    rw [ht, hn]

/--
If only one member of an object has a certain key, every tree with this key gives its value.
-/
theorem value_of_filter_eq_singleton {room : Nat} {ms : List (Quotation × Tree)}
    {vs : List (Text × Json)} {q : Quotation} {t : Tree} {key k : Text} {v : Json}
    (hvs : List.Forall₂ (fun m v => m.1.text = .ok v.1 ∧ m.2.value room = .ok v.2) ms vs)
    (hmem : (q, t) ∈ ms) (hq : q.text = .ok key)
    (hone : vs.filter (fun m => m.1 = key) = [(k, v)])
    : t.value room = .ok v := by
  rcases exists_mem_of_forall₂ hvs hmem with ⟨⟨k', v'⟩, hv', hk', hvalue⟩
  rw [hq, Except.ok.injEq] at hk'
  have hfilter : (k', v') ∈ vs.filter (fun m => m.1 = key) := by
    rw [List.mem_filter]
    exact ⟨hv', decide_eq_true hk'.symm⟩
  rw [hone, List.mem_singleton, Prod.mk.injEq] at hfilter
  rw [hvalue, hfilter.2]

theorem isRead_of_isRecord {room : Nat} {t : Tree} {f : Field} (h : IsRecord t f)
    : IsRead (room + 1) t f := by
  rcases h with ⟨q, u, p, v, rfl, hq, hu, hp, hv⟩
  refine ⟨f.toJson, ?_, ofJson?_toJson f⟩
  rw [Tree.value_object_eq_ok_iff]
  refine ⟨_, ?_, rfl⟩
  exact .cons ⟨hq, Tree.value_string hu⟩ (.cons ⟨hp, Tree.value_string hv⟩ .nil)

theorem Rewrite.isRead {room : Nat} {t t' : Tree} {f : Field} (h : Rewrite t t')
    (ht : IsRead (room + 1) t f)
    : IsRead (room + 1) t' f := by
  rcases ht with ⟨v, hv, hf⟩
  cases h with
  | permute hperm =>
    rw [Tree.value_object_eq_ok_iff] at hv
    rcases hv with ⟨vs, hvs, rfl⟩
    rcases List.perm_comp_forall₂ hperm.symm hvs with ⟨vs', hvs', hperm'⟩
    rw [ofJson?_object_eq_some_iff] at hf
    rcases hf with ⟨k, j, ht, hn⟩
    refine ⟨.object vs', ?_, ?_⟩
    . rw [Tree.value_object_eq_ok_iff]
      exact ⟨vs', hvs', rfl⟩
    . rw [ofJson?_object_eq_some_iff]
      refine ⟨k, j, ?_, ?_⟩
      . rw [← List.perm_singleton, ← ht]
        exact hperm'.filter _
      . rw [← List.perm_singleton, ← hn]
        exact hperm'.filter _
  | listed ht hq hn hp =>
    rw [Tree.value_object_eq_ok_iff] at hv
    rcases hv with ⟨vs, hvs, rfl⟩
    rw [ofJson?_object_eq_some_iff] at hf
    rcases hf with ⟨k, j, htype, hname⟩
    have htvalue := value_of_filter_eq_singleton hvs ht hq htype
    have hnvalue := value_of_filter_eq_singleton hvs hn hp hname
    refine ⟨.array [.string f.typeName, .string f.name], ?_, rfl⟩
    rw [Tree.value_array_eq_ok_iff]
    exact ⟨_, .cons htvalue (.cons hnvalue .nil), rfl⟩

end Field

namespace FieldList

/--
The ways to write a field list differently: the fields that are read from a text are written as an
array of objects, or a field of an array is written differently.
-/
inductive Rewrite : Tree → Tree → Prop where
  | parsed {q : Quotation} {raw : Text} {fs : FieldList} {ts : List Tree} (hq : q.text = .ok raw)
      (hraw : parse raw = .ok fs) (hts : List.Forall₂ Field.IsRecord ts fs)
    : Rewrite (.string q) (.array ts none)
  | field {ts us : List Tree} {t t' : Tree} (h : Field.Rewrite t t')
    : Rewrite (.array (ts ++ t :: us) none) (.array (ts ++ t' :: us) none)

theorem ofJson_array_eq_ok_iff {vs : List Json} {fs : FieldList}
    : ofJson (.array vs) = .ok fs ↔ vs.mapM Field.ofJson? = some fs := by
  unfold ofJson
  dsimp only
  cases vs.mapM Field.ofJson? with
  | none => simp
  | some gs => simp

theorem asFields_array_eq_ok_iff {ts : List Tree} {fs : FieldList}
    : Tree.asFields (.array ts none) = .ok fs ↔ List.Forall₂ (Field.IsRead 125) ts fs := by
  have hfields : Tree.asFields (.array ts none) = .ok fs ↔
      ∃ vs, List.Forall₂ (fun t v => t.value 125 = .ok v) ts vs ∧
        vs.mapM Field.ofJson? = some fs := by
    unfold Tree.asFields Tree.partRoom
    simp only [Except.bind_eq_ok_iff, Except.mapError_eq_ok_iff, Tree.value_array_eq_ok_iff]
    constructor
    . intro h
      rcases h with ⟨v, ⟨vs, hvs, rfl⟩, hfs⟩
      exact ⟨vs, hvs, ofJson_array_eq_ok_iff.1 hfs⟩
    . intro h
      rcases h with ⟨vs, hvs, hfs⟩
      exact ⟨_, ⟨vs, hvs, rfl⟩, ofJson_array_eq_ok_iff.2 hfs⟩
  rw [hfields]
  -- The values in between are found again item by item.
  clear hfields
  induction ts generalizing fs with
  | nil => simp [eq_comm]
  | cons t ts ih =>
    simp only [List.forall₂_cons_left_iff, ← ih]
    constructor
    . intro h
      rcases h with ⟨_, ⟨v, vs, hv, hvs, rfl⟩, hfs⟩
      simp only [List.mapM_cons, Option.bind_eq_bind, Option.bind_eq_some_iff] at hfs
      rcases hfs with ⟨f, hf, gs, hgs, heq⟩
      cases heq
      exact ⟨f, gs, ⟨v, hv, hf⟩, ⟨vs, hvs, hgs⟩, rfl⟩
    . intro h
      rcases h with ⟨f, gs, ⟨v, hv, hf⟩, ⟨vs, hvs, hgs⟩, rfl⟩
      refine ⟨v :: vs, ⟨v, vs, hv, hvs, rfl⟩, ?_⟩
      rw [List.mapM_cons, hf, hgs]
      rfl

theorem asFields_string {q : Quotation} {raw : Text} (hq : q.text = .ok raw) {fs : FieldList}
    : Tree.asFields (.string q) = .ok fs ↔ parse raw = .ok fs := by
  unfold Tree.asFields ofJson
  rw [Tree.value_string hq]
  simp [Except.mapError_eq_ok_iff]

theorem Rewrite.asFields {t t' : Tree} {fs : FieldList} (h : Rewrite t t')
    (ht : t.asFields = .ok fs)
    : t'.asFields = .ok fs := by
  cases h with
  | parsed hq hraw hts =>
    rw [asFields_string hq, hraw] at ht
    cases ht
    rw [asFields_array_eq_ok_iff]
    exact hts.imp fun _ _ => Field.isRead_of_isRecord
  | field h =>
    rw [asFields_array_eq_ok_iff] at ht ⊢
    exact forall₂_replace ht fun _ => h.isRead

theorem Rewrite.asOption {t t' : Tree} {o : Option FieldList} (h : Rewrite t t')
    (ht : t.asOption Tree.asFields = .ok o)
    : t'.asOption Tree.asFields = .ok o := by
  have hsome : ∀ u : Tree, u = t ∨ u = t' →
      u.asOption Tree.asFields = (u.asFields).map some := by
    intro u hu
    cases h with
    | parsed => rcases hu with rfl | rfl <;> rfl
    | field => rcases hu with rfl | rfl <;> rfl
  rw [hsome _ (.inl rfl), Except.map_eq_ok_iff] at ht
  rcases ht with ⟨fs, hfs, rfl⟩
  rw [hsome _ (.inr rfl), h.asFields hfs]
  rfl

end FieldList

end Scaffold
