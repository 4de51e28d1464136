import Scaffold.Proofs.Command.Inheritance

/-!
This module contains the failures that a run cannot end in. Its parts fail for reasons of their own,
so that a run gives up for want of the kind of contract only where it asks for the kind.
-/

namespace Scaffold

namespace Simulation

variable {α β : Type} {f : Failure}

def Avoids (f : Failure) (x : Simulation α) : Prop :=
  ∀ w w' : World, x w ≠ .error f w'

theorem Avoids.bind {x : Simulation α} {g : α → Simulation β} (hx : Avoids f x)
    (hg : ∀ a, Avoids f (g a))
    : Avoids f (x >>= g) := by
  intro w w' h
  rcases bind_eq_error_iff.1 h with hfail | ⟨a, v, -, hfail⟩
  . apply hx w w' hfail
  . apply hg a v w' hfail

theorem avoids_of_ok {x : Simulation α} (h : ∀ w, ∃ a w', x w = .ok a w') : Avoids f x := by
  intro w w' hfail
  rcases h w with ⟨a, v, hok⟩
  rw [hok] at hfail
  cases hfail

theorem avoids_throw {e : Failure} (h : e ≠ f) : Avoids f (throw e : Simulation α) := by
  intro w w' hfail
  cases hfail
  exact h rfl

theorem avoids_interview (k : Option Kind) : Avoids f (Host.interview k : Simulation _) :=
  avoids_of_ok fun w => ⟨_, _, interview_eq k w⟩

theorem passesThrough_avoids : PassesThrough (Avoids .kindNeeded) where
  pure a := avoids_of_ok fun w => ⟨a, w, rfl⟩
  bind hx hf := hx.bind hf
  throw he := avoids_throw he
  readFile p := avoids_of_ok fun w => ⟨_, _, readFile_eq p w⟩
  writeFile p c := by
    apply avoids_of_ok
    intro w
    rw [writeFile_eq]
    split
    . exact ⟨_, _, rfl⟩
    . exact ⟨_, _, rfl⟩
  makeDirectories p := avoids_of_ok fun w => ⟨_, _, makeDirectories_eq p w⟩
  isPresent p := avoids_of_ok fun w => ⟨_, _, isPresent_eq p w⟩
  report t := avoids_of_ok fun w => ⟨_, _, report_eq t w⟩
  print t := avoids_of_ok fun w => ⟨_, _, print_eq t w⟩

end Simulation

theorem Failure.chain_eq_iff_kindNeeded {f : Failure}
    : f.chain = [.words "--spec needs a contract kind (obligation or arbiter)"] ↔
        f = .kindNeeded := by
  constructor
  . intro h
    cases f with
    | kindNeeded => rfl
    | occupied path =>
      -- The words start with a path, which can be anything, so they differ at the end.
      have hend : " already exists (use --force to overwrite)".toList <:+
          "--spec needs a contract kind (obligation or arbiter)".toList :=
        ⟨path, Link.words.inj (List.cons.inj h).1⟩
      exact absurd hend (by decide)
    | interview b => cases b <;> simp [chain] at h
    | _ => simp [chain] at h
  . rintro rfl
    rfl

open Simulation

namespace New

variable {a : New} {w : World}

theorem avoids_collect (h : a.spec.isSome → a.kind.isSome)
    : Avoids .kindNeeded (a.collect : Simulation Spec) := by
  unfold collect
  split
  . apply (avoids_interview _).bind
    intro r
    apply passesThrough_avoids.orFail
    simp
  . next hspec hkind => simp [hspec, hkind] at h
  . apply passesThrough_avoids.readSpecFile

/--
A run gives up for want of the kind of contract exactly if it is to read a specification of unknown
kind.
-/
theorem run_eq_kindNeeded_iff
    : (∃ w', (a.run : Simulation Unit) w = .error .kindNeeded w') ↔
        a.spec.isSome = true ∧ a.kind = none := by
  constructor
  . intro h
    rcases h with ⟨w', hrun⟩
    by_contra hneeded
    have hkind : a.spec.isSome → a.kind.isSome := by
      intro hspec
      rw [Option.isSome_iff_ne_none]
      intro hnone
      exact hneeded ⟨hspec, hnone⟩
    exact passesThrough_avoids.run (avoids_collect hkind) w w' hrun
  . intro h
    rcases h with ⟨hspec, hkind⟩
    rcases Option.isSome_iff_exists.1 hspec with ⟨p, hp⟩
    refine ⟨w, ?_⟩
    unfold run collect
    rw [hp, hkind]
    rfl

theorem told_run_eq_kindNeeded_iff
    : told ((a.run : Simulation Unit) w) =
          .error [.words "--spec needs a contract kind (obligation or arbiter)"] ↔
        a.spec.isSome = true ∧ a.kind = none := by
  rw [← run_eq_kindNeeded_iff (w := w)]
  unfold told
  cases hrun : (a.run : Simulation Unit) w with
  | ok u w' => simp
  | error f w' =>
    rw [Except.error.injEq, Failure.chain_eq_iff_kindNeeded]
    simp

end New

end Scaffold
