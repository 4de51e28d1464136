import Scaffold.File.Tree
import Scaffold.Proofs.Except

/-!
This module contains what a tree of files keeps when a file is written, and the proof that the
content of a file that has been written is read back.
-/

namespace Scaffold

namespace FileTree

/--
Whether everything in a tree is still there in another one: directories as directories, and files
as files, perhaps with another content.
-/
structure Extends (t t' : FileTree) : Prop where
  directory (l : Location) (h : t.get? l = some .directory) : t'.get? l = some .directory
  file (l : Location) (c : Bytes) (h : t.get? l = some (.file c)) : ∃ c', t'.get? l = some (.file c')

theorem Extends.isSome {t t' : FileTree} (h : Extends t t') {l : Location}
    (hl : (t.get? l).isSome = true) : (t'.get? l).isSome = true := by
  rw [Option.isSome_iff_exists] at hl
  rcases hl with ⟨e, he⟩
  cases e with
  | directory =>
    rw [h.directory l he]
    rfl
  | file c =>
    rcases h.file l c he with ⟨c', hc'⟩
    rw [hc']
    rfl

theorem Extends.get?_eq_none {t t' : FileTree} (h : Extends t t') {l : Location}
    (hl : t'.get? l = none) : t.get? l = none := by
  rw [← Option.not_isSome_iff_eq_none] at hl ⊢
  intro hsome
  exact hl (h.isSome hsome)

theorem Extends.trans {t t' u : FileTree} (h : Extends t t') (h' : Extends t' u) : Extends t u := by
  constructor
  . intro l hl
    apply h'.directory l (h.directory l hl)
  . intro l c hl
    rcases h.file l c hl with ⟨c', hc'⟩
    apply h'.file l c' hc'

theorem step_eq_ok_iff {t : FileTree} {l k : Location} {s : Text}
    : t.step l s = .ok k ↔
        t.get? l = some .directory ∧
          ((s = ['.'] ∧ l = k) ∨ (s = ['.', '.'] ∧ l.dropLast = k) ∨
            (s ≠ ['.'] ∧ s ≠ ['.', '.'] ∧ (t.get? (l ++ [s])).isSome = true ∧ l ++ [s] = k)) := by
  unfold step
  split
  . next hl =>
    split
    . next hs =>
      subst hs
      simp [hl]
    . next hs =>
      split
      . next hs =>
        subst hs
        simp [hl]
      . next hs' =>
        split
        . next h => simp [hl, hs, hs', h]
        . next h => simp [hl, hs, hs', h]
  . next c hl => simp [hl]
  . next hl => simp [hl]

theorem Extends.step {t t' : FileTree} (h : Extends t t') {l k : Location} {s : Text}
    (hs : t.step l s = .ok k) : t'.step l s = .ok k := by
  rw [step_eq_ok_iff] at hs ⊢
  rcases hs with ⟨hl, hs⟩
  constructor
  . apply h.directory l hl
  . rcases hs with hs | hs | ⟨hdot, hdots, hsome, hk⟩
    . exact .inl hs
    . exact .inr (.inl hs)
    . exact .inr (.inr ⟨hdot, hdots, h.isSome hsome, hk⟩)

theorem Extends.walk {t t' : FileTree} (h : Extends t t') {l k : Location} {ss : List Text}
    (hs : t.walk l ss = .ok k) : t'.walk l ss = .ok k := by
  induction ss generalizing l with
  | nil => exact hs
  | cons s ss ih =>
    unfold FileTree.walk at hs ⊢
    rw [Except.bind_eq_ok_iff] at hs ⊢
    rcases hs with ⟨j, hstep, hwalk⟩
    exact ⟨j, h.step hstep, ih hwalk⟩

theorem walk_concat (t : FileTree) (l : Location) (ss : List Text) (s : Text)
    : t.walk l (ss ++ [s]) = (t.walk l ss >>= fun k => t.step k s) := by
  induction ss generalizing l with
  | nil =>
    rw [List.nil_append]
    unfold walk walk
    rw [Except.ok_bind]
    cases t.step l s <;> rfl
  | cons r ss ih =>
    rw [List.cons_append]
    unfold walk
    cases t.step l r with
    | error f => rfl
    | ok k => exact ih k

section Set

variable {t : FileTree} {dir : Location} {s : Text} {c : Bytes}

theorem extends_set_file (hdir : t.get? dir = some .directory)
    (hfree : t.get? (dir ++ [s]) ≠ some .directory)
    : Extends t (t.set (dir ++ [s]) (.file c)) := by
  constructor
  . intro l hl
    rw [get?_set_of_ne]
    . exact hl
    . intro h
      subst h
      apply hfree hl
  . intro l c' hl
    by_cases h : l = dir ++ [s]
    . subst h
      exact ⟨c, get?_set_self hdir hfree⟩
    . exact ⟨c', by rw [get?_set_of_ne h, hl]⟩

end Set

/--
The directory that a path leads into, and the name of what it leads to there.
-/
structure LeadsInto (t : FileTree) (p : Path) (dir : Location) (s : Text) : Prop where
  not_isEmpty : p.isEmpty = false
  steps_eq : p.steps = p.steps.dropLast ++ [s]
  walk_eq : t.walk [] p.steps.dropLast = .ok dir
  get?_eq : t.get? dir = some .directory
  ne_dot : s ≠ ['.']
  ne_dots : s ≠ ['.', '.']

theorem locateLast_eq_ok_iff {t : FileTree} {p : Path} {dir : Location} {s : Text}
    : t.locateLast p = .ok (dir, some s) ↔ LeadsInto t p dir s := by
  constructor
  . intro h
    unfold locateLast at h
    split at h
    . cases h
    . next hempty =>
      rw [Except.bind_eq_ok_iff] at h
      rcases h with ⟨dir', hwalk, h⟩
      split at h
      . next hdir =>
        split at h
        . cases h
        . next s' hlast =>
          split at h
          . cases h
          . next hdots =>
            rw [not_or] at hdots
            cases h
            constructor
            . simpa using hempty
            . rcases List.getLast?_eq_some_iff.1 hlast with ⟨ss, hss⟩
              rw [hss, List.dropLast_concat]
            . exact hwalk
            . exact hdir
            . apply hdots.1
            . apply hdots.2
      . cases h
      . cases h
  . intro h
    have hlast : p.steps.getLast? = some s := by
      rw [h.steps_eq]
      simp
    unfold locateLast
    rw [h.not_isEmpty, h.walk_eq]
    simp [h.get?_eq, hlast, h.ne_dot, h.ne_dots]

theorem write_eq_ok_iff {t t' : FileTree} {p : Path} {c : Bytes}
    : t.write p c = .ok t' ↔
        ∃ dir s, LeadsInto t p dir s ∧ p.endsInSlash = false ∧
          t.get? (dir ++ [s]) ≠ some .directory ∧ t' = t.set (dir ++ [s]) (.file c) := by
  unfold write
  rw [Except.bind_eq_ok_iff]
  constructor
  . intro h
    rcases h with ⟨⟨dir, last⟩, hlast, h⟩
    split at h
    . cases h
    . next dir s heq =>
      cases heq
      split at h
      . cases h
      . next hfree =>
        rw [not_or] at hfree
        cases h
        refine ⟨dir, s, locateLast_eq_ok_iff.1 hlast, ?_, hfree.2, rfl⟩
        simpa using hfree.1
  . intro h
    rcases h with ⟨dir, s, hleads, hslash, hfree, rfl⟩
    refine ⟨(dir, some s), locateLast_eq_ok_iff.2 hleads, ?_⟩
    simp [hslash, hfree]

theorem LeadsInto.extends {t t' : FileTree} {p : Path} {dir : Location} {s : Text}
    (h : LeadsInto t p dir s) (hextends : Extends t t')
    : LeadsInto t' p dir s where
  not_isEmpty := h.not_isEmpty
  steps_eq := h.steps_eq
  walk_eq := hextends.walk h.walk_eq
  get?_eq := hextends.directory dir h.get?_eq
  ne_dot := h.ne_dot
  ne_dots := h.ne_dots

theorem LeadsInto.locate {t : FileTree} {p : Path} {dir : Location} {s : Text}
    (h : LeadsInto t p dir s) (hslash : p.endsInSlash = false)
    (hsome : (t.get? (dir ++ [s])).isSome = true)
    : t.locate p = .ok (dir ++ [s]) := by
  have hstep : t.step dir s = .ok (dir ++ [s]) := by
    rw [step_eq_ok_iff]
    exact ⟨h.get?_eq, .inr (.inr ⟨h.ne_dot, h.ne_dots, hsome, rfl⟩)⟩
  have hwalk : t.walk [] p.steps = .ok (dir ++ [s]) := by
    rw [h.steps_eq, walk_concat]
    rw [h.walk_eq]
    exact hstep
  unfold FileTree.locate
  rw [h.not_isEmpty, hwalk]
  simp [hslash]

section Write

variable {t t' : FileTree} {p : Path} {c : Bytes}

theorem extends_of_write (h : t.write p c = .ok t') : Extends t t' := by
  rw [write_eq_ok_iff] at h
  rcases h with ⟨dir, s, hleads, -, hfree, rfl⟩
  apply extends_set_file hleads.get?_eq hfree

/--
A path leads to the file that has been written to it, in the directory that it led into before.
Nothing else has changed.
-/
theorem exists_of_write (h : t.write p c = .ok t')
    : ∃ dir s, LeadsInto t p dir s ∧ p.endsInSlash = false ∧ t'.locate p = .ok (dir ++ [s]) ∧
        t'.get? (dir ++ [s]) = some (.file c) ∧
        ∀ k, k ≠ dir ++ [s] → t'.get? k = t.get? k := by
  -- The file takes the place of no directory, so the way to it can still be gone.
  have hextends := extends_of_write h
  rw [write_eq_ok_iff] at h
  rcases h with ⟨dir, s, hleads, hslash, hfree, rfl⟩
  have hself := get?_set_self (e := .file c) hleads.get?_eq hfree
  refine ⟨dir, s, hleads, hslash, ?_, hself, fun k hk => get?_set_of_ne hk⟩
  apply (hleads.extends hextends).locate hslash
  rw [hself]
  rfl

theorem locate_of_write (h : t.write p c = .ok t')
    : ∃ l, t'.locate p = .ok l ∧ t'.get? l = some (.file c) ∧
        ∀ k, k ≠ l → t'.get? k = t.get? k := by
  rcases exists_of_write h with ⟨dir, s, -, -, hlocate, hself, hothers⟩
  exact ⟨dir ++ [s], hlocate, hself, hothers⟩

theorem get?_eq_none_of_write {l : Location} (h : t.write p c = .ok t')
    (hpresent : t.isPresent p = false) (hl : t'.locate p = .ok l)
    : t.get? l = none := by
  rcases exists_of_write h with ⟨dir, s, hleads, hslash, hlocate, -, -⟩
  rw [hlocate] at hl
  cases hl
  rw [← Option.not_isSome_iff_eq_none]
  intro hsome
  unfold isPresent at hpresent
  rw [hleads.locate hslash hsome] at hpresent
  cases hpresent

theorem read_of_write (h : t.write p c = .ok t') : t'.read p = .ok c := by
  rcases locate_of_write h with ⟨l, hlocate, hself, -⟩
  unfold read
  rw [hlocate, Except.ok_bind, hself]

end Write

end FileTree

end Scaffold
