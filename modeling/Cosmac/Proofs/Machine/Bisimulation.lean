import Cosmac.Proofs.Machine.Operation

/-!
# Bisimulations

A relation of machines is a bisimulation if related machines take steps of the same kind and stay
related, and if their timers and keypads are equal and may change together. Related machines then
show a host the same whatever it does without restarting or changing them by hand
(`IsBisimulation.operateAll`).
-/

set_option autoImplicit false

namespace Cosmac.Machine

/-- Related machines do the same in a step, and they stay related when steps are taken, timers
count down and keys are worked. -/
structure IsBisimulation (R : Machine → Machine → Prop) : Prop where
  /-- They take steps of the same kind and stay related. -/
  step : ∀ {m n : Machine}, R m n → m.step.1.kind = n.step.1.kind ∧ R m.step.2 n.step.2
  /-- Their timers are equal. -/
  timers : ∀ {m n : Machine}, R m n → m.timers = n.timers
  /-- They may change together. -/
  withTimers : ∀ {m n : Machine} (timers : Timers), R m n →
    R { m with timers := timers } { n with timers := timers }
  /-- Their keypads are equal. -/
  keypad : ∀ {m n : Machine}, R m n → m.keypad = n.keypad
  /-- They may change together. -/
  withKeypad : ∀ {m n : Machine} (keypad : Keypad), R m n →
    R { m with keypad := keypad } { n with keypad := keypad }

namespace IsBisimulation

variable {R : Machine → Machine → Prop} (hR : IsBisimulation R) {m n : Machine}

include hR

/-- Runs of related machines are as long and end in related machines. -/
theorem run (count : Nat) (hrelated : R m n) :
    (m.run count).1.map Outcome.kind = (n.run count).1.map Outcome.kind ∧
      R (m.run count).2 (n.run count).2 := by
  induction count generalizing m n with
  | zero => exact ⟨rfl, hrelated⟩
  | succ count ih =>
    obtain ⟨hkind, hafter⟩ := hR.step hrelated
    rw [Machine.run, Machine.run]
    generalize m.step = first, n.step = second at hkind hafter
    obtain ⟨outcome, after⟩ := first
    obtain ⟨otherOutcome, other⟩ := second
    cases outcome with
    | executed word diagnostic =>
      cases otherOutcome with
      | executed otherWord otherDiagnostic =>
        obtain ⟨hkinds, hend⟩ := ih hafter
        exact ⟨congrArg₂ List.cons hkind hkinds, hend⟩
      | faulted | refused => cases hkind
    | faulted fault =>
      cases otherOutcome with
      | faulted otherFault => exact ⟨congrArg (fun kind ↦ [kind]) hkind, hafter⟩
      | executed | refused => cases hkind
    | refused fault =>
      cases otherOutcome with
      | refused otherFault => exact ⟨rfl, hafter⟩
      | executed | faulted => cases hkind

theorem onKey (operate : Keypad → Key → Keypad) (number : Int) (hrelated : R m n) :
    R (m.onKey operate number) (n.onKey operate number) := by
  rw [Machine.onKey, Machine.onKey, hR.keypad hrelated]
  split
  · exact hR.withKeypad _ hrelated
  · exact hrelated

/-- A passive operation shows the same of related machines and leaves them related. -/
theorem operate {operation : Operation} (hpassive : operation.isPassive = true)
    (hrelated : R m n) :
    m.reaction operation = n.reaction operation ∧
      R (m.operate operation) (n.operate operation) := by
  have htimers : m.timers = n.timers := hR.timers hrelated
  have hkeypad : m.keypad = n.keypad := hR.keypad hrelated
  cases operation with
  | moveTo => cases hpassive
  | resetKeypad => exact ⟨rfl, hR.withKeypad _ hrelated⟩
  | ask action =>
    cases action with
    | step =>
      obtain ⟨hkind, hafter⟩ := hR.step hrelated
      refine ⟨?_, hafter⟩
      simp only [reaction, perform, List.map_cons, List.map_nil, hkind]
    | run count =>
      obtain ⟨hkinds, hafter⟩ := hR.run count.toNat hrelated
      refine ⟨?_, hafter⟩
      simp only [reaction, perform, hkinds]
    | tick =>
      constructor
      · simp only [reaction, tick, htimers]
      · simp only [Machine.operate, perform, tick, htimers]
        exact hR.withTimers _ hrelated
    | press number | release number => exact ⟨rfl, hR.onKey _ number hrelated⟩
    | releaseAll =>
      simp only [Machine.operate, perform, hkeypad]
      exact ⟨rfl, hR.withKeypad _ hrelated⟩
    | reset | load | write | setRegister => cases hpassive

/-- Passive operations show the same of related machines and leave them related. -/
theorem operateAll (operations : List Operation) :
    ∀ m n : Machine, R m n → (∀ operation ∈ operations, operation.isPassive = true) →
      m.reactions operations = n.reactions operations ∧
        R (m.operateAll operations) (n.operateAll operations) := by
  induction operations with
  | nil => intro m n hrelated _; exact ⟨rfl, hrelated⟩
  | cons operation rest ih =>
    intro m n hrelated hpassive
    obtain ⟨hreaction, hafter⟩ := hR.operate (hpassive operation List.mem_cons_self) hrelated
    obtain ⟨hreactions, hend⟩ := ih _ _ hafter
      fun other hother ↦ hpassive other (List.mem_cons_of_mem operation hother)
    exact ⟨congrArg₂ List.cons hreaction hreactions, hend⟩

end IsBisimulation

end Cosmac.Machine
