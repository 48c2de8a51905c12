import Mathlib.Data.List.Forall2

/-!
# Operations that can fail

An operation in several parts has a value only if its parts have one (`exists_of_bind_eq_ok`), and
fails with the failure of the first part that fails (`failure?_bind`). An operation on each of
several values succeeds with the values that its parts give (`mapM_eq_ok`) and fails with the first
failure of a part (`failure?_mapM`).
-/

set_option autoImplicit false

namespace Cosmac

variable {ε α β γ : Type}

/-- An operation in two parts has a value only if its first part has one. -/
theorem exists_of_bind_eq_ok {part : Except ε α} {rest : α → Except ε β} {value : β}
    (hvalue : part >>= rest = .ok value) : ∃ a : α, part = .ok a ∧ rest a = .ok value := by
  cases part with
  | error => cases hvalue
  | ok a => exact ⟨a, rfl, hvalue⟩

/-- What is computed from the value of a part is there only if the part has one. -/
theorem exists_of_map_eq_ok {part : Except ε α} {g : α → β} {value : β}
    (hvalue : part.map g = .ok value) : ∃ a : α, part = .ok a ∧ g a = value := by
  cases part with
  | error => cases hvalue
  | ok a => exact ⟨a, rfl, Except.ok.inj hvalue⟩

/-! ### Failures -/

/-- The failure of an operation, if it has failed. -/
def failure? : Except ε α → Option ε
  | .error cause => some cause
  | .ok _ => none

theorem failure?_eq_some_iff {part : Except ε α} {cause : ε} :
    failure? part = some cause ↔ part = .error cause := by
  cases part with
  | error other =>
    exact ⟨fun h ↦ congrArg Except.error (Option.some.inj h), fun h ↦ congrArg failure? h⟩
  | ok a => exact ⟨nofun, nofun⟩

/-- An operation in two parts fails with the failure of its first part, or else with that of its
second one, if that does not depend on the value of the first. -/
theorem failure?_bind {part : Except ε α} {rest : α → Except ε β} {later : Option ε}
    (hlater : ∀ a : α, part = .ok a → failure? (rest a) = later) :
    failure? (part >>= rest) = (failure? part).or later := by
  cases part with
  | error cause => rfl
  | ok a => exact hlater a rfl

theorem failure?_bind_of_some {part : Except ε α} {rest : α → Except ε β} {cause : ε}
    (hpart : failure? part = some cause) : failure? (part >>= rest) = some cause := by
  rw [failure?_eq_some_iff.mp hpart]
  rfl

theorem failure?_bind_pure (part : Except ε α) (g : α → β) :
    failure? (do return g (← part)) = failure? part := by
  cases part <;> rfl

/-! ### Operations on each of several values -/

variable {f : α → Except ε β} {xs : List α} {ys : List β}

/-- An operation on each of several values succeeds if its parts do. -/
theorem mapM_eq_ok {g : α → β} (hparts : ∀ x ∈ xs, f x = .ok (g x)) :
    xs.mapM f = .ok (xs.map g) := by
  induction xs with
  | nil => rfl
  | cons x rest ih =>
    rw [List.mapM_cons, hparts x List.mem_cons_self,
      ih fun y hy ↦ hparts y (List.mem_cons_of_mem x hy)]
    rfl

/-- An operation on each of several values fails with the first failure of a part. -/
theorem failure?_mapM : failure? (xs.mapM f) = xs.findSome? fun x ↦ failure? (f x) := by
  induction xs with
  | nil => rfl
  | cons x rest ih =>
    rw [List.mapM_cons, List.findSome?_cons, ← ih,
      failure?_bind fun value _ ↦ failure?_bind_pure (rest.mapM f) (value :: ·)]
    cases failure? (f x) <;> rfl

/-- The values that an operation on each of several values gives are those of its parts. -/
theorem forall₂_of_mapM (hys : xs.mapM f = .ok ys) :
    List.Forall₂ (fun x y ↦ f x = .ok y) xs ys := by
  induction xs generalizing ys with
  | nil =>
    cases hys
    exact .nil
  | cons x rest ih =>
    rw [List.mapM_cons] at hys
    obtain ⟨value, hx, hys⟩ := exists_of_bind_eq_ok hys
    obtain ⟨values, hrest, hys⟩ := exists_of_bind_eq_ok hys
    cases hys
    exact .cons hx (ih hrest)

theorem exists_of_mem_mapM (hys : xs.mapM f = .ok ys) : ∀ y ∈ ys, ∃ x ∈ xs, f x = .ok y := by
  have hpairs := forall₂_of_mapM hys
  clear hys
  induction hpairs with
  | nil => exact fun y hy ↦ absurd hy List.not_mem_nil
  | @cons x y _ _ hx _ ih =>
    refine List.forall_mem_cons.mpr ⟨⟨x, List.mem_cons_self, hx⟩, fun z hz ↦ ?_⟩
    obtain ⟨w, hw, hz⟩ := ih z hz
    exact ⟨w, List.mem_cons_of_mem x hw, hz⟩

/-- Values that stand for each other in order have the same first result. -/
theorem findSome?_eq_of_forall₂ {R : α → β → Prop} {g : α → Option γ} {h : β → Option γ}
    (hpairs : List.Forall₂ R xs ys) (hparts : ∀ (x : α) (y : β), R x y → h y = g x) :
    ys.findSome? h = xs.findSome? g := by
  induction hpairs with
  | nil => rfl
  | cons hxy _ ih => rw [List.findSome?_cons, List.findSome?_cons, hparts _ _ hxy, ih]

end Cosmac
