import Scaffold.Command.Arguments
import Scaffold.Proofs.Command.Cause
import Mathlib.Data.List.Perm.Basic

/-!
This module contains what can be asked for by arguments: the runs that know the kind of contract if
they read a specification, and a directory if they may overwrite a contract. All of these can be
asked for, and the order of the arguments does not matter.
-/

namespace Scaffold

def Kind.word : Kind → Text
  | obligation => "obligation"
  | arbiter => "arbiter"

theorem Kind.ofWord?_word (k : Kind) : Kind.ofWord? k.word = some k := by
  cases k <;> rfl

inductive Setting where
  | kind (k : Kind)
  | spec (p : Path)
  | outDir (p : Path)
  | saveSpec (p : Path)
  | force

namespace Setting

/--
The argument that tells a setting. The value of an option stands behind an equals sign.
-/
def argument : Setting → Text
  | kind k => k.word
  | spec p => "--spec=" ++ p
  | outDir p => "--out-dir=" ++ p
  | saveSpec p => "--save-spec=" ++ p
  | force => "--force"

/--
Whether an argument can tell a setting. It cannot tell an empty path.
-/
def IsTellable : Setting → Prop
  | kind _ => True
  | spec p => p ≠ []
  | outDir p => p ≠ []
  | saveSpec p => p ≠ []
  | force => True

end Setting

namespace New

def settings (a : New) : List Setting :=
  a.kind.toList.map .kind ++ a.spec.toList.map .spec ++ a.outDir.toList.map .outDir ++
  a.saveSpec.toList.map .saveSpec ++ (if a.force then [.force] else [])

def arguments (a : New) : List Text :=
  a.settings.map Setting.argument

structure IsSupported (a : New) : Prop where
  kind_of_spec : a.spec.isSome → a.kind.isSome
  outDir_of_force : a.force → a.outDir.isSome

structure HasPaths (a : New) : Prop where
  spec : ∀ p ∈ a.spec, p ≠ []
  outDir : ∀ p ∈ a.outDir, p ≠ []
  saveSpec : ∀ p ∈ a.saveSpec, p ≠ []

theorem isSupported_iff {a : New}
    : a.IsSupported ↔ ¬(a.spec.isSome ∧ a.kind.isNone ∨ a.force ∧ a.outDir.isNone) := by
  simp only [not_or, not_and, Option.isNone_iff_eq_none, ← Option.isSome_iff_ne_none]
  constructor
  . intro h
    exact ⟨h.kind_of_spec, h.outDir_of_force⟩
  . intro h
    exact ⟨h.1, h.2⟩

theorem checkNeeds_eq_ok_iff {a b : New} : a.checkNeeds = .ok b ↔ a.IsSupported ∧ a = b := by
  rw [isSupported_iff]
  unfold checkNeeds
  split
  . next h =>
    simp only [reduceCtorEq, false_iff, not_and]
    intro hnot
    exact absurd h hnot
  . next h =>
    rw [Except.ok.injEq]
    exact (and_iff_right h).symm

theorem hasPaths_unspecified : unspecified.HasPaths := by
  constructor <;> simp [unspecified]

section Sound

variable {a b : New} {pending pending' : Pending} {filled : Bool} {word : Text} {args : List Text}

theorem ne_nil_of_path {present p : Option Path} (h : path present word = .ok p)
    : ∀ q ∈ p, q ≠ [] := by
  unfold path at h
  split at h
  . cases h
  . split at h
    . cases h
    . next hne =>
      cases h
      simpa using hne

theorem hasPaths_of_put {slot : Slot} (ha : a.HasPaths) (h : a.put slot word = .ok b)
    : b.HasPaths := by
  unfold put at h
  cases slot with
  | kind =>
    dsimp only at h
    split at h
    . cases h
    . cases h
      exact ⟨ha.spec, ha.outDir, ha.saveSpec⟩
  | spec =>
    rcases Except.map_eq_ok_iff.1 h with ⟨p, hp, rfl⟩
    exact ⟨ne_nil_of_path hp, ha.outDir, ha.saveSpec⟩
  | outDir =>
    rcases Except.map_eq_ok_iff.1 h with ⟨p, hp, rfl⟩
    exact ⟨ha.spec, ne_nil_of_path hp, ha.saveSpec⟩
  | saveSpec =>
    rcases Except.map_eq_ok_iff.1 h with ⟨p, hp, rfl⟩
    exact ⟨ha.spec, ha.outDir, ne_nil_of_path hp⟩

theorem hasPaths_of_settle (ha : a.HasPaths) (h : a.settle pending = .ok b) : b.HasPaths := by
  cases pending with
  | nothing =>
    cases h
    exact ha
  | value slot word => exact hasPaths_of_put ha h
  | awaited slot => cases h

theorem hasPaths_of_takeWord (ha : a.HasPaths)
    (h : a.takeWord pending filled word = .ok (b, pending'))
    : b.HasPaths := by
  unfold takeWord at h
  split at h
  . cases h
  . rcases Except.bind_eq_ok_iff.1 h with ⟨c, hc, hb⟩
    cases hb
    exact hasPaths_of_settle ha hc

theorem hasPaths_of_takeOption {name : Text} {value : Option Text} (ha : a.HasPaths)
    (h : a.takeOption pending name value = .ok (b, pending'))
    : b.HasPaths := by
  unfold takeOption at h
  split at h
  . rcases Except.bind_eq_ok_iff.1 h with ⟨c, hc, hb⟩
    have hpaths := hasPaths_of_settle ha hc
    split at hb
    . rcases Except.bind_eq_ok_iff.1 hb with ⟨d, hd, hd'⟩
      cases hd'
      exact hasPaths_of_put hpaths hd
    . cases hb
      exact hpaths
  . split at h
    . split at h
      . cases h
      . rcases Except.bind_eq_ok_iff.1 h with ⟨c, hc, hb⟩
        have hpaths := hasPaths_of_settle ha hc
        split at hb
        . cases hb
        . cases hb
          exact ⟨hpaths.spec, hpaths.outDir, hpaths.saveSpec⟩
    . split at h
      . split at h
        . cases h
        . rcases Except.bind_eq_ok_iff.1 h with ⟨c, hc, hb⟩
          cases hb
      . cases h

theorem takeLetters_ne_ok {α : Type} {letters : Text} {x : α}
    : a.takeLetters pending letters ≠ .ok x := by
  intro h
  unfold takeLetters at h
  split at h
  . rcases Except.bind_eq_ok_iff.1 h with ⟨c, hc, hb⟩
    cases hb
  . cases h

theorem isSupported_of_ofWords (ha : a.HasPaths) (h : a.ofWords pending filled args = .ok b)
    : b.IsSupported ∧ b.HasPaths := by
  induction args generalizing a pending filled with
  | nil =>
    rcases Except.bind_eq_ok_iff.1 h with ⟨c, hc, hb⟩
    rcases checkNeeds_eq_ok_iff.1 hb with ⟨hsupported, rfl⟩
    exact ⟨hsupported, hasPaths_of_settle ha hc⟩
  | cons word words ih =>
    rcases Except.bind_eq_ok_iff.1 h with ⟨c, hc, hb⟩
    apply ih (hasPaths_of_takeWord ha hc) hb

theorem isSupported_of_ofArguments (ha : a.HasPaths)
    (h : a.ofArguments pending filled args = .ok b)
    : b.IsSupported ∧ b.HasPaths := by
  induction args generalizing a pending filled with
  | nil =>
    rcases Except.bind_eq_ok_iff.1 h with ⟨c, hc, hb⟩
    rcases checkNeeds_eq_ok_iff.1 hb with ⟨hsupported, rfl⟩
    exact ⟨hsupported, hasPaths_of_settle ha hc⟩
  | cons arg args ih =>
    unfold ofArguments at h
    split at h
    . apply isSupported_of_ofWords ha h
    . rcases Except.bind_eq_ok_iff.1 h with ⟨c, hc, hb⟩
      apply ih (hasPaths_of_takeOption ha hc) hb
    . exact absurd h takeLetters_ne_ok
    . split at h
      . apply ih ha h
      . rcases Except.bind_eq_ok_iff.1 h with ⟨c, hc, hb⟩
        apply ih (hasPaths_of_takeWord ha hc) hb

end Sound

section Settings

variable {a b c : New} {s t : Setting}

theorem mem_settings_iff
    : s ∈ a.settings ↔
        match s with
        | .kind k => a.kind = some k
        | .spec p => a.spec = some p
        | .outDir p => a.outDir = some p
        | .saveSpec p => a.saveSpec = some p
        | .force => a.force = true := by
  cases s <;> simp [settings]

theorem eq_of_mem_settings_iff (h : ∀ s, s ∈ a.settings ↔ s ∈ b.settings) : a = b := by
  simp only [mem_settings_iff] at h
  have hkind : a.kind = b.kind := Option.ext fun k => h (.kind k)
  have hspec : a.spec = b.spec := Option.ext fun p => h (.spec p)
  have hout : a.outDir = b.outDir := Option.ext fun p => h (.outDir p)
  have hsave : a.saveSpec = b.saveSpec := Option.ext fun p => h (.saveSpec p)
  have hforce : a.force = b.force := Bool.eq_iff_iff.2 (h .force)
  cases a
  cases b
  simp_all

theorem nodup_settings (a : New) : a.settings.Nodup := by
  rcases a with ⟨kind, spec, outDir, saveSpec, force⟩
  cases kind <;> cases spec <;> cases outDir <;> cases saveSpec <;> cases force <;>
    simp [settings]

def set (b : New) : Setting → New
  | .kind k => { b with kind := some k }
  | .spec p => { b with spec := some p }
  | .outDir p => { b with outDir := some p }
  | .saveSpec p => { b with saveSpec := some p }
  | .force => { b with force := true }

def Lacks (b : New) : Setting → Prop
  | .kind _ => b.kind = none
  | .spec _ => b.spec = none
  | .outDir _ => b.outDir = none
  | .saveSpec _ => b.saveSpec = none
  | .force => b.force = false

theorem mem_settings_set_iff (h : b.Lacks s)
    : t ∈ (b.set s).settings ↔ t ∈ b.settings ∨ t = s := by
  rcases b with ⟨kind, spec, outDir, saveSpec, force⟩
  simp only [mem_settings_iff]
  cases s with
  | _ =>
    cases h
    cases t <;> simp [set, eq_comm]

/--
Whether `c` is the run `b` with some more settings, each of which is told once.
-/
structure Completes (b : New) (rest : List Setting) (c : New) : Prop where
  mem_iff : ∀ s, s ∈ c.settings ↔ s ∈ b.settings ∨ s ∈ rest
  nodup : rest.Nodup
  disjoint : ∀ s ∈ rest, s ∉ b.settings

theorem eq_none_of_imp {α : Type} {o o' : Option α} {x : α} (himp : ∀ y, o = some y → o' = some y)
    (ho' : o' = some x) (ho : o ≠ some x)
    : o = none := by
  cases o with
  | none => rfl
  | some y =>
    have hy := himp y rfl
    rw [ho'] at hy
    exact absurd hy.symm ho

theorem Completes.lacks {rest : List Setting} (h : Completes b rest c) (hs : s ∈ rest)
    : b.Lacks s := by
  have hfresh := h.disjoint s hs
  have hgiven := (h.mem_iff s).2 (.inr hs)
  -- What is told of the same already would be told by `c` as well, so it would be this setting.
  have htold : ∀ t, t ∈ b.settings → t ∈ c.settings := fun t ht => (h.mem_iff t).2 (.inl ht)
  simp only [mem_settings_iff] at hfresh hgiven htold
  cases s with
  | kind k => exact eq_none_of_imp (fun k => htold (.kind k)) hgiven hfresh
  | spec p => exact eq_none_of_imp (fun p => htold (.spec p)) hgiven hfresh
  | outDir p => exact eq_none_of_imp (fun p => htold (.outDir p)) hgiven hfresh
  | saveSpec p => exact eq_none_of_imp (fun p => htold (.saveSpec p)) hgiven hfresh
  | force => exact Bool.eq_false_iff.2 hfresh

theorem Completes.set {rest : List Setting} (h : Completes b (s :: rest) c)
    : Completes (b.set s) rest c := by
  have hlacks := h.lacks List.mem_cons_self
  rcases List.nodup_cons.1 h.nodup with ⟨hfresh, hnodup⟩
  constructor
  . intro t
    rw [h.mem_iff, mem_settings_set_iff hlacks, List.mem_cons, or_assoc]
  . exact hnodup
  . intro t ht hset
    rcases (mem_settings_set_iff hlacks).1 hset with hb | rfl
    . apply h.disjoint t (List.mem_cons_of_mem _ ht) hb
    . exact hfresh ht

theorem Completes.eq (h : Completes b [] c) : b = c := by
  apply eq_of_mem_settings_iff
  simp [h.mem_iff]

end Settings

section Complete

variable {a b c : New} {s : Setting} {pending : Pending} {filled : Bool}

/--
Whether a run is what has been told when some arguments have been taken, with what is kept back.
-/
structure IsTold (b a : New) (pending : Pending) (filled : Bool) : Prop where
  settle : a.settle pending = .ok b
  filled : b.kind.isSome = filled

theorem ofArguments_long {arg name word : Text} {slot : Slot}
    (harg : Argument.ofText arg = .long name (some word)) (hname : Slot.ofName? name = some slot)
    (hsettle : a.settle pending = .ok b) (hput : b.put slot word = .ok c) (args : List Text)
    : a.ofArguments pending filled (arg :: args) = c.ofArguments .nothing filled args := by
  rw [ofArguments, harg]
  dsimp only
  unfold takeOption
  rw [hname]
  dsimp only
  rw [hsettle]
  simp only [Except.ok_bind]
  rw [hput]
  rfl

theorem ofArguments_force {arg : Text} (harg : Argument.ofText arg = .long "force" none)
    (hsettle : a.settle pending = .ok b) (hforce : b.force = false) (args : List Text)
    : a.ofArguments pending filled (arg :: args) =
        (b.set .force).ofArguments .nothing filled args := by
  have hname : Slot.ofName? "force" = none := rfl
  rw [ofArguments, harg]
  dsimp only
  unfold takeOption
  rw [hname]
  dsimp only
  rw [if_pos rfl, hsettle]
  simp only [Except.ok_bind, hforce]
  rfl

theorem ofArguments_word {arg word : Text} (harg : Argument.ofText arg = .plain word)
    (hsettle : a.settle pending = .ok b) (args : List Text)
    : a.ofArguments pending false (arg :: args) =
        b.ofArguments (.value .kind word) true args := by
  have htake : a.takeWord pending false word = .ok (b, .value .kind word) := by
    unfold takeWord
    rw [hsettle]
    rfl
  rw [ofArguments, harg]
  dsimp only
  cases pending with
  | nothing =>
    dsimp only
    rw [htake]
    rfl
  | value slot word =>
    dsimp only
    rw [htake]
    rfl
  | awaited slot => cases hsettle

theorem ofText_word (k : Kind) : Argument.ofText k.word = .plain k.word := by
  cases k <;> rfl

theorem put_word (b : New) (k : Kind) : b.put .kind k.word = .ok (b.set (.kind k)) := by
  unfold put
  rw [Kind.ofWord?_word]
  rfl

theorem path_eq_ok {present : Option Path} {p : Path} (hpresent : present = none) (hp : p ≠ [])
    : path present p = .ok (some p) := by
  unfold path
  simp [hpresent, hp]

theorem exists_ofArguments_argument (h : b.IsTold a pending filled) (hlacks : b.Lacks s)
    (hs : s.IsTellable)
    : ∃ a' pending' filled', (b.set s).IsTold a' pending' filled' ∧ ∀ args,
        a.ofArguments pending filled (s.argument :: args) =
          a'.ofArguments pending' filled' args := by
  rcases h with ⟨hsettle, rfl⟩
  cases s with
  | kind k =>
    -- The word is kept back, so the kind is told only together with it.
    refine ⟨b, .value .kind k.word, true, ⟨put_word b k, rfl⟩, ?_⟩
    have hkind : b.kind.isSome = false := by
      rw [hlacks]
      rfl
    rw [hkind]
    apply ofArguments_word (ofText_word k) hsettle
  | spec p =>
    have harg : Argument.ofText (Setting.spec p).argument = .long "spec" (some p) := rfl
    have hput : b.put .spec p = .ok (b.set (.spec p)) := by
      rw [put, path_eq_ok hlacks hs]
      rfl
    refine ⟨b.set (.spec p), .nothing, b.kind.isSome, ⟨rfl, rfl⟩, ?_⟩
    apply ofArguments_long harg rfl hsettle hput
  | outDir p =>
    have harg : Argument.ofText (Setting.outDir p).argument = .long "out-dir" (some p) := rfl
    have hput : b.put .outDir p = .ok (b.set (.outDir p)) := by
      rw [put, path_eq_ok hlacks hs]
      rfl
    refine ⟨b.set (.outDir p), .nothing, b.kind.isSome, ⟨rfl, rfl⟩, ?_⟩
    apply ofArguments_long harg rfl hsettle hput
  | saveSpec p =>
    have harg : Argument.ofText (Setting.saveSpec p).argument = .long "save-spec" (some p) := rfl
    have hput : b.put .saveSpec p = .ok (b.set (.saveSpec p)) := by
      rw [put, path_eq_ok hlacks hs]
      rfl
    refine ⟨b.set (.saveSpec p), .nothing, b.kind.isSome, ⟨rfl, rfl⟩, ?_⟩
    apply ofArguments_long harg rfl hsettle hput
  | force =>
    refine ⟨b.set .force, .nothing, b.kind.isSome, ⟨rfl, rfl⟩, ?_⟩
    apply ofArguments_force rfl hsettle hlacks

theorem ofArguments_settings {rest : List Setting} (h : b.IsTold a pending filled)
    (hrest : Completes b rest c) (htellable : ∀ s ∈ rest, s.IsTellable)
    : a.ofArguments pending filled (rest.map Setting.argument) = c.checkNeeds := by
  induction rest generalizing a b pending filled with
  | nil =>
    rw [List.map_nil, ofArguments, h.settle, hrest.eq]
    rfl
  | cons s rest ih =>
    have hs : s ∈ s :: rest := List.mem_cons_self
    rcases exists_ofArguments_argument h (hrest.lacks hs) (htellable s hs) with
      ⟨a', pending', filled', htold, hstep⟩
    rw [List.map_cons, hstep]
    apply ih htold hrest.set
    intro t ht
    apply htellable t (List.mem_cons_of_mem s ht)

theorem completes_unspecified {rest : List Setting} (h : rest.Perm a.settings)
    : Completes unspecified rest a := by
  constructor
  . intro s
    rw [h.mem_iff]
    simp [settings, unspecified]
  . exact h.nodup_iff.2 (nodup_settings a)
  . simp [settings, unspecified]

theorem HasPaths.isTellable (h : a.HasPaths) (hs : s ∈ a.settings) : s.IsTellable := by
  rw [mem_settings_iff] at hs
  cases s with
  | kind k => trivial
  | spec p => exact h.spec p hs
  | outDir p => exact h.outDir p hs
  | saveSpec p => exact h.saveSpec p hs
  | force => trivial

theorem parse_new (args : List Text)
    : parse ("new" :: args) = unspecified.ofArguments .nothing false args := rfl

theorem exists_of_parse_eq_ok {args : List Text} (h : parse args = .ok a)
    : ∃ rest, unspecified.ofArguments .nothing false rest = .ok a := by
  unfold parse at h
  split at h
  . cases h
  . next arg rest =>
    split at h
    . cases h
    . cases h
    . cases h
    . split at h
      . exact ⟨rest, h⟩
      . split at h
        . cases h
        . cases h

theorem exists_settings_of_perm {args : List Text} (h : args.Perm a.arguments)
    : ∃ rest : List Setting, args = rest.map Setting.argument ∧ rest.Perm a.settings := by
  have heq := congrFun₂ (List.eq_map_comp_perm Setting.argument) args a.settings
  exact heq.mpr h

end Complete

/--
Arguments ask for a run only together with everything that it needs, so such a run does not fail for
want of the kind of contract, and they give no empty path. Each run of this sort can be asked for, by
arguments for what it is to know and to do, which may come in any order.
-/
theorem parse_yields_supported
    : (∀ (args : List Text) (a : New), parse args = .ok a →
        a.IsSupported ∧ a.HasPaths ∧
          ∀ w : World, Simulation.told ((a.run : Simulation Unit) w) ≠
            .error [.words "--spec needs a contract kind (obligation or arbiter)"]) ∧
      (∀ a : New, a.IsSupported → a.HasPaths → ∀ args : List Text, args.Perm a.arguments →
        parse ("new" :: args) = .ok a) := by
  constructor
  . intro args a hparse
    rcases exists_of_parse_eq_ok hparse with ⟨rest, hrest⟩
    rcases isSupported_of_ofArguments hasPaths_unspecified hrest with ⟨hsupported, hpaths⟩
    refine ⟨hsupported, hpaths, ?_⟩
    intro w htold
    rcases told_run_eq_kindNeeded_iff.1 htold with ⟨hspec, hkind⟩
    have hsome := hsupported.kind_of_spec hspec
    rw [hkind] at hsome
    cases hsome
  . intro a hsupported hpaths args hargs
    rcases exists_settings_of_perm hargs with ⟨rest, rfl, hrest⟩
    have htold : unspecified.IsTold unspecified .nothing false := ⟨rfl, rfl⟩
    rw [parse_new, ofArguments_settings htold (completes_unspecified hrest)]
    . rw [checkNeeds_eq_ok_iff]
      exact ⟨hsupported, rfl⟩
    . intro s hs
      apply hpaths.isTellable (hrest.mem_iff.1 hs)

theorem parse_yields_supported_force
    : parse ["new", "--force", "--spec=a=b", "arbiter", "--out-dir=-o"] =
          .ok ⟨some .arbiter, some "a=b", some "-o", none, true⟩ ∧
      parse ["new", "--spec", "x", "obligation"] =
          .ok ⟨some .obligation, some "x", none, none, false⟩ ∧
      (∀ w : World,
        Simulation.told (run (m := Simulation) ⟨some .obligation, some "x", none, none, false⟩ w) ≠
          .error [.words "--spec needs a contract kind (obligation or arbiter)"]) ∧
      -- Without the kind the arguments are refused, because such a run would not get far.
      parse ["new", "--spec", "x"] = .error .missingRequired ∧
      ∀ w : World,
        Simulation.told (run (m := Simulation) ⟨none, some "x", none, none, false⟩ w) =
          .error [.words "--spec needs a contract kind (obligation or arbiter)"] := by
  rcases parse_yields_supported with ⟨hsound, hcomplete⟩
  have hparse : parse ["new", "--spec", "x", "obligation"] =
      .ok ⟨some .obligation, some "x", none, none, false⟩ := by
    rfl
  refine ⟨?_, hparse, ?_, rfl, ?_⟩
  . apply hcomplete
    . constructor <;> simp
    . constructor <;> simp
    . decide
  . apply (hsound _ _ hparse).2.2
  . intro w
    rw [told_run_eq_kindNeeded_iff]
    exact ⟨rfl, rfl⟩

end New

end Scaffold
