import Scaffold.Proofs.Command.Replay

/-!
This module contains properties that a run has because each of its parts has them. It is enough to
look at single operations then, and at how a run gives up.
-/

namespace Scaffold

abbrev Simulation.Property := ∀ {α : Type}, Simulation α → Prop

namespace Simulation

/--
Whether a property is passed on to what is put together from parts that have it, and reading and
giving up have it. Giving up for want of the kind of contract need not have it.
-/
structure PassesOn (P : Property) : Prop where
  pure {α : Type} (a : α) : P (pure a : Simulation α)
  bind {α β : Type} {x : Simulation α} {f : α → Simulation β} (hx : P x) (hf : ∀ a, P (f a))
    : P (x >>= f)
  throw {α : Type} {e : Failure} (he : e ≠ .kindNeeded) : P (throw e : Simulation α)
  readFile (p : Path) : P (Host.readFile p : Simulation _)

/--
Whether a property is passed on, and all that a run writes is written by operations that have it.
-/
structure PassesThrough (P : Property) : Prop extends PassesOn P where
  writeFile (p : Path) (c : Bytes) : P (Host.writeFile p c : Simulation _)
  makeDirectories (p : Path) : P (Host.makeDirectories p : Simulation _)
  isPresent (p : Path) : P (Host.isPresent p : Simulation _)
  report (t : Text) : P (Host.report t : Simulation Unit)
  print (t : Text) : P (Host.print t : Simulation Unit)

variable {P : Property}

theorem PassesOn.orFail (h : PassesOn P) {α ε : Type} {reason : ε → Failure}
    (hreason : ∀ e, reason e ≠ .kindNeeded) (x : Except ε α)
    : P (orFail reason x : Simulation α) := by
  cases x with
  | ok a => apply h.pure
  | error e => apply h.throw (hreason e)

theorem PassesOn.readSpecFile (h : PassesOn P) (k : Kind) (p : Path)
    : P (readSpecFile k p : Simulation Spec) := by
  unfold Scaffold.readSpecFile
  apply h.bind (h.readFile p)
  intro r
  apply h.bind (h.orFail (by simp) r)
  intro bytes
  apply h.bind (h.orFail (by simp) _)
  intro s
  apply h.bind (h.orFail (by simp) _)
  intro u
  apply h.pure

theorem PassesThrough.write (h : PassesThrough P) (p : Path) (c : Bytes)
    : P (do orFail (.write p) (← Host.writeFile p c) : Simulation Unit) := by
  apply h.bind (h.writeFile p c)
  intro r
  apply h.orFail
  simp

theorem PassesThrough.writeSpecFile (h : PassesThrough P) (p : Path) (s : Spec)
    : P (writeSpecFile p s : Simulation Unit) := by
  unfold Scaffold.writeSpecFile
  split
  . dsimp only
    split
    . next dir _ _ =>
      apply h.bind (h.makeDirectories dir)
      intro r
      apply h.bind (h.orFail (by simp) r)
      intro u
      apply h.write
    . apply h.write
  . apply h.write

theorem PassesThrough.writeContractFile (h : PassesThrough P) (dir : Path) (name source : Text)
    (force : Bool)
    : P (writeContractFile dir name source force : Simulation Path) := by
  have hwrite : ∀ p : Path, P (do
      Scaffold.orFail (.write p) (← Host.writeFile p (Utf8.encode source))
      return p : Simulation Path) := by
    intro p
    rw [← bind_assoc]
    apply h.bind (h.write p _)
    intro u
    apply h.pure
  unfold Scaffold.writeContractFile
  apply h.bind (h.makeDirectories dir)
  intro r
  apply h.bind (h.orFail (by simp) r)
  intro u
  dsimp only
  apply h.bind (h.isPresent _)
  intro present
  split
  . apply h.bind (h.throw (by simp))
    intro v
    apply hwrite
  . apply hwrite

theorem PassesThrough.save (h : PassesThrough P) (a : New) (s : Spec) : P (a.save s) := by
  unfold New.save
  split
  . apply h.bind (h.writeSpecFile _ s)
    intro u
    apply h.report
  . apply h.pure

theorem PassesThrough.deliver (h : PassesThrough P) (a : New) (s : Spec) : P (a.deliver s) := by
  unfold New.deliver
  split
  . apply h.bind (h.writeContractFile _ _ _ _)
    intro p
    apply h.report
  . apply h.print

theorem PassesThrough.run (h : PassesThrough P) {a : New}
    (hcollect : P (a.collect : Simulation Spec))
    : P (a.run : Simulation Unit) := by
  rw [New.run_eq]
  apply h.bind hcollect
  intro s
  apply h.bind (h.orFail (by simp) _)
  intro u
  apply h.bind (h.save a s)
  intro v
  apply h.deliver

end Simulation

end Scaffold
