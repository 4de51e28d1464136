import Scaffold.Proofs.File.Tree

/-!
This module contains what the operations on a tree of files leave alone: making directories changes
no file, and writing a file changes no other one.
-/

namespace Scaffold

namespace FileTree

theorem content?_eq_some_iff {t : FileTree} {l : Location} {c : Bytes}
    : t.content? l = some c ↔ t.get? l = some (.file c) := by
  unfold content?
  split
  . next h => simp [h]
  . next h =>
    constructor
    . intro hc
      cases hc
    . intro hc
      exact absurd hc (h c)

theorem content?_congr {t t' : FileTree} {l : Location} (h : t'.get? l = t.get? l)
    : t'.content? l = t.content? l := by
  unfold content?
  rw [h]

/--
Whether two trees have the same files. The second one may have more directories.
-/
structure SameFiles (t t' : FileTree) : Prop where
  content (l : Location) : t'.content? l = t.content? l
  directory (l : Location) (h : t.get? l = some .directory) : t'.get? l = some .directory

/--
Whether a tree has another content than before in the file that a path leads to, or has this file in
addition, and has the same other files.
-/
def Stores (t t' : FileTree) (p : Path) (c : Bytes) : Prop :=
  ∃ l, t'.locate p = .ok l ∧ t'.content? l = some c ∧ ∀ k, k ≠ l → t'.content? k = t.content? k

section Ways

variable {t : FileTree} {l k : Location}

theorem get?_of_append {s : Text} (h : (t.get? (l ++ s :: k)).isSome = true)
    : t.get? l = some .directory := by
  fun_induction get? t l with
  | case1 => rfl
  | case2 => cases h
  | case3 bytes others r => simp [get?] at h
  | case4 bytes others r l hl => simp [get?] at h
  | case5 n bytes others r l hn ih =>
    apply ih
    simpa [get?, hn] using h
  | case6 inside others r l ih =>
    apply ih
    simpa [get?] using h
  | case7 n inside others r l hn ih =>
    apply ih
    simpa [get?, hn] using h

theorem get?_append_eq_none (h : t.get? l = none) (k : Location) : t.get? (l ++ k) = none := by
  cases k with
  | nil => rw [List.append_nil, h]
  | cons s k =>
    rw [← Option.not_isSome_iff_eq_none]
    intro hsome
    rw [get?_of_append hsome] at h
    cases h

theorem isSome_of_step {s : Text} (h : t.step l s = .ok k) : (t.get? k).isSome = true := by
  rw [step_eq_ok_iff] at h
  rcases h with ⟨hl, ⟨-, rfl⟩ | ⟨-, rfl⟩ | ⟨-, -, hsome, rfl⟩⟩
  . rw [hl]
    rfl
  . rcases List.eq_nil_or_concat l with rfl | ⟨k, r, rfl⟩
    . rw [List.dropLast_nil, hl]
      rfl
    . rw [List.concat_eq_append] at hl ⊢
      rw [List.dropLast_concat, get?_of_append (k := []) (s := r)]
      . rfl
      . rw [hl]
        rfl
  . exact hsome

theorem isSome_of_walk {ss : List Text} (hl : (t.get? l).isSome = true)
    (h : t.walk l ss = .ok k)
    : (t.get? k).isSome = true := by
  induction ss generalizing l with
  | nil =>
    cases h
    exact hl
  | cons s ss ih =>
    unfold walk at h
    rw [Except.bind_eq_ok_iff] at h
    rcases h with ⟨j, hstep, hwalk⟩
    exact ih (isSome_of_step hstep) hwalk

theorem isSome_of_locate {p : Path} (h : t.locate p = .ok l) : (t.get? l).isSome = true := by
  unfold locate at h
  split at h
  . cases h
  . rw [Except.bind_eq_ok_iff] at h
    rcases h with ⟨k, hwalk, hk⟩
    split at hk
    . cases hk
    . cases hk
      apply isSome_of_walk _ hwalk
      rw [get?_nil]
      rfl

end Ways

section

variable {t t' u : FileTree}

theorem SameFiles.refl (t : FileTree) : SameFiles t t :=
  ⟨fun _ => rfl, fun _ h => h⟩

theorem SameFiles.trans (h : SameFiles t t') (h' : SameFiles t' u) : SameFiles t u := by
  constructor
  . intro l
    rw [h'.content, h.content]
  . intro l hl
    apply h'.directory
    apply h.directory l hl

theorem SameFiles.extends (h : SameFiles t t') : Extends t t' := by
  constructor
  . exact h.directory
  . intro l c hl
    refine ⟨c, ?_⟩
    rw [← content?_eq_some_iff] at hl ⊢
    rw [h.content, hl]

theorem Extends.locate (h : Extends t t') {p : Path} {l : Location} (hl : t.locate p = .ok l)
    : t'.locate p = .ok l := by
  have hsome := isSome_of_locate hl
  unfold FileTree.locate at hl ⊢
  split at hl
  . cases hl
  . next hp =>
    rw [if_neg hp]
    rw [Except.bind_eq_ok_iff] at hl ⊢
    rcases hl with ⟨k, hwalk, hk⟩
    refine ⟨k, h.walk hwalk, ?_⟩
    -- A path that ends in a slash leads to a directory, which is one still.
    split at hk
    . cases hk
    . next hslash =>
      cases hk
      rcases Option.isSome_iff_exists.1 hsome with ⟨e, he⟩
      cases e with
      | directory => rw [h.directory l he]
      | file c =>
        rcases h.file l c he with ⟨c', hc'⟩
        rw [hc']
        cases hends : p.endsInSlash with
        | true => exact absurd hends (hslash c he)
        | false => rfl

theorem Stores.sameFiles {p : Path} {c : Bytes} (h : Stores t t' p c) (h' : SameFiles t' u)
    : Stores t u p c := by
  rcases h with ⟨l, hlocate, hcontent, hothers⟩
  refine ⟨l, h'.extends.locate hlocate, ?_, ?_⟩
  . rw [h'.content, hcontent]
  . intro k hk
    rw [h'.content, hothers k hk]

theorem Stores.content?_eq {p : Path} {c : Bytes} {l : Location} (h : Stores t t' p c)
    (hl : t'.locate p ≠ .ok l)
    : t'.content? l = t.content? l := by
  rcases h with ⟨k, hlocate, -, hothers⟩
  apply hothers
  intro hk
  subst hk
  exact hl hlocate

theorem SameFiles.stores {p : Path} {c : Bytes} (h : SameFiles t t') (h' : Stores t' u p c)
    : Stores t u p c := by
  rcases h' with ⟨l, hlocate, hcontent, hothers⟩
  refine ⟨l, hlocate, hcontent, ?_⟩
  intro k hk
  rw [hothers k hk, h.content]

end

section Directories

variable {t : FileTree} {l : Location} {s : Text}

theorem get?_of_step_eq_notFound (h : t.step l s = .error .notFound)
    : t.get? (l ++ [s]) = none := by
  unfold step at h
  split at h
  . split at h
    . cases h
    . split at h
      . cases h
      . split at h
        . cases h
        . next hnone => simpa using hnone
  . cases h
  . next hl => exact get?_append_eq_none hl [s]

theorem get?_set_eq_or (t : FileTree) (l : Location) (e : Entry)
    : (t.set l e).get? l = t.get? l ∨ (t.set l e).get? l = some e := by
  fun_induction set t l e with
  | case1 => exact .inl rfl
  | case2 s e => exact .inr (get?_insert_self empty s e)
  | case3 => exact .inl rfl
  | case4 bytes others s e => exact .inr (get?_insert_self others s e)
  | case5 => exact .inl rfl
  | case6 n bytes others s l e hn ih =>
    unfold get?
    rw [if_neg hn, if_neg hn]
    exact ih
  | case7 inside others s l e ih =>
    unfold get?
    rw [if_pos rfl, if_pos rfl]
    exact ih
  | case8 n inside others s l e hn ih =>
    unfold get?
    rw [if_neg hn, if_neg hn]
    exact ih

theorem sameFiles_set_directory (h : t.get? l = none) : SameFiles t (t.set l .directory) := by
  constructor
  . intro k
    by_cases hk : k = l
    . subst hk
      unfold content?
      rcases get?_set_eq_or t k .directory with hset | hset
      . rw [hset]
      . rw [hset, h]
    . exact content?_congr (get?_set_of_ne hk)
  . intro k hk
    rw [get?_set_of_ne, hk]
    intro hkl
    subst hkl
    rw [h] at hk
    cases hk

theorem sameFiles_pave (t : FileTree) (l : Location) (ss : List Text)
    : SameFiles t (t.pave l ss).1 := by
  induction ss generalizing t l with
  | nil => exact .refl t
  | cons s ss ih =>
    unfold pave
    split
    . split
      . apply ih
      . exact .refl t
    . next hstep =>
      apply SameFiles.trans
      . exact sameFiles_set_directory (get?_of_step_eq_notFound hstep)
      . apply ih
    . exact .refl t

theorem sameFiles_makeDirectories (t : FileTree) (p : Path)
    : SameFiles t (t.makeDirectories p).1 := by
  have hpave := sameFiles_pave t [] p.wayAndGoal.1
  unfold makeDirectories
  split
  . exact .refl t
  . dsimp only
    split
    . next h =>
      rw [h] at hpave
      exact hpave
    . next h =>
      rw [h] at hpave
      exact hpave

theorem sameFiles_of_makeDirectories {t' : FileTree} {p : Path} {r : Except FileFault Unit}
    (h : t.makeDirectories p = (t', r))
    : SameFiles t t' := by
  have hsame := sameFiles_makeDirectories t p
  rw [h] at hsame
  exact hsame

end Directories

theorem stores_of_write {t t' : FileTree} {p : Path} {c : Bytes} (h : t.write p c = .ok t')
    : Stores t t' p c := by
  rcases locate_of_write h with ⟨l, hlocate, hself, hothers⟩
  refine ⟨l, hlocate, content?_eq_some_iff.2 hself, ?_⟩
  intro k hk
  exact content?_congr (hothers k hk)

end FileTree

end Scaffold
