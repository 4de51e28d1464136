import Scaffold.Command.New

/-!
This module contains what is known of the parts of a simulated run if the whole of it ends well, and
what each thing that a run does to the world makes of the world.
-/

namespace Scaffold

namespace Simulation

variable {α β ε : Type}

theorem bind_eq_ok_iff {x : Simulation α} {f : α → Simulation β} {w w' : World} {b : β}
    : (x >>= f) w = .ok b w' ↔ ∃ a v, x w = .ok a v ∧ f a v = .ok b w' := by
  change EStateM.bind x f w = .ok b w' ↔ _
  unfold EStateM.bind
  split
  . next a v hx =>
    rw [hx]
    constructor
    . intro h
      exact ⟨a, v, rfl, h⟩
    . intro h
      rcases h with ⟨a', v', heq, h⟩
      cases heq
      exact h
  . next e v hx => simp [hx]

theorem bind_eq_error_iff {x : Simulation α} {f : α → Simulation β} {w w' : World} {e : Failure}
    : (x >>= f) w = .error e w' ↔
        x w = .error e w' ∨ ∃ a v, x w = .ok a v ∧ f a v = .error e w' := by
  change EStateM.bind x f w = .error e w' ↔ _
  unfold EStateM.bind
  split
  . next a v hx =>
    rw [hx]
    constructor
    . intro h
      exact .inr ⟨a, v, rfl, h⟩
    . intro h
      rcases h with h | ⟨a', v', heq, h⟩
      . cases h
      . cases heq
        exact h
  . next e' v hx => simp [hx]

theorem bind_of_ok {x : Simulation α} {f : α → Simulation β} {w v : World} {a : α}
    (h : x w = .ok a v) : (x >>= f) w = f a v := by
  change EStateM.bind x f w = f a v
  unfold EStateM.bind
  rw [h]

theorem bind_of_error {x : Simulation α} {f : α → Simulation β} {w v : World} {e : Failure}
    (h : x w = .error e v) : (x >>= f) w = .error e v := by
  change EStateM.bind x f w = .error e v
  unfold EStateM.bind
  rw [h]

theorem orFail_ok (reason : ε → Failure) (a : α) (w : World)
    : (orFail reason (.ok a) : Simulation α) w = .ok a w := rfl

theorem orFail_error (reason : ε → Failure) (e : ε) (w : World)
    : (orFail reason (.error e : Except ε α) : Simulation α) w = .error (reason e) w := rfl

theorem orFail_eq_ok_iff {reason : ε → Failure} {x : Except ε α} {w w' : World} {a : α}
    : (orFail reason x : Simulation α) w = .ok a w' ↔ x = .ok a ∧ w = w' := by
  cases x with
  | ok a' =>
    rw [orFail_ok]
    simp
  | error e =>
    rw [orFail_error]
    simp

theorem orFail_eq_error_iff {reason : ε → Failure} {x : Except ε α} {w w' : World} {e : Failure}
    : (orFail reason x : Simulation α) w = .error e w' ↔
        ∃ c, x = .error c ∧ reason c = e ∧ w = w' := by
  cases x with
  | ok a =>
    rw [orFail_ok]
    simp
  | error c =>
    rw [orFail_error]
    simp

theorem readFile_eq (p : Path) (w : World)
    : (Host.readFile p : Simulation _) w = .ok (w.files.read p) w := rfl

theorem report_eq (t : Text) (w : World)
    : (Host.report t : Simulation Unit) w = .ok () { w with messages := w.messages ++ t } := rfl

theorem print_eq (t : Text) (w : World)
    : (Host.print t : Simulation Unit) w = .ok () { w with output := w.output ++ t } := rfl

theorem isPresent_eq (p : Path) (w : World)
    : (Host.isPresent p : Simulation _) w = .ok (w.files.isPresent p) w := rfl

theorem makeDirectories_eq (p : Path) (w : World)
    : (Host.makeDirectories p : Simulation _) w =
        .ok (w.files.makeDirectories p).2 { w with files := (w.files.makeDirectories p).1 } := rfl

theorem interview_eq (k : Option Kind) (w : World)
    : (Host.interview k : Simulation _) w =
        .ok (Interview.Session.hold k w.input).result { w with
          input := (Interview.Session.hold k w.input).unread.flatten
          messages := w.messages ++ (Interview.Session.hold k w.input).transcript } := rfl

theorem writeFile_eq (p : Path) (c : Bytes) (w : World)
    : (Host.writeFile p c : Simulation _) w =
        match w.files.write p c with
        | .ok t => .ok (.ok ()) { w with files := t }
        | .error f => .ok (.error f) w := by
  change EStateM.bind EStateM.get _ w = _
  unfold EStateM.bind EStateM.get
  dsimp only
  cases w.files.write p c with
  | ok t => rfl
  | error f => rfl

theorem writeFile_bind_orFail_eq_ok_iff {p : Path} {c : Bytes} {w w' : World}
    : (do orFail (.write p) (← Host.writeFile p c) : Simulation Unit) w = .ok () w' ↔
        ∃ t, w.files.write p c = .ok t ∧ { w with files := t } = w' := by
  rw [bind_eq_ok_iff, writeFile_eq]
  constructor
  . intro h
    rcases h with ⟨r, v, hwrite, h⟩
    rw [orFail_eq_ok_iff] at h
    rcases h with ⟨rfl, rfl⟩
    split at hwrite
    . next t ht =>
      cases hwrite
      exact ⟨t, ht, rfl⟩
    . cases hwrite
  . intro h
    rcases h with ⟨t, ht, rfl⟩
    refine ⟨.ok (), _, ?_, rfl⟩
    rw [ht]

end Simulation

end Scaffold
