import Cosmac.Bench.Keypad
import Cosmac.Proofs.KeyWait
import Mathlib.Data.List.DropRight

/-!
# Calls on a keypad

A host presses and releases keys, each given by a value that need not stand for one. `Keypad.call`
carries a call out effect by effect, so that a refusal would not take back what came before it, and
it is what the bench does (`Keypad.operateKeypad_eq_call`).

What becomes of a keypad can be told from its history alone. The last call that concerns a key
decides whether it is held (`Keypad.isPressed_callAll`), and the last press since the last reset is
the key that is known as the last one (`Keypad.last_callAll`). Calls on different keys may come in
either order (`Keypad.pressedKeys_callAll_swap`).
-/

set_option autoImplicit false

namespace Cosmac

namespace Keypad

/-! ### Calls -/

/-- What a host may call on a keypad. The value for a key need not stand for one. -/
inductive Call where
  /-- Presses a key. -/
  | press (value : Json)
  /-- Releases a key. -/
  | release (value : Json)
  /-- Releases every key. -/
  | releaseAll
  /-- Releases every key and forgets which was pressed last. -/
  | reset

/-- A program of effects on a keypad. An error leaves the effects before it as they are. -/
abbrev Effects : Type :=
  ExceptT KeyError (StateM Keypad) Unit

/-- Marks keys as held or not, as a change of the keypad does. -/
def mark (change : Keypad → Keypad) : Effects :=
  modify fun p ↦ { p with held := (change p).held }

/-- Sets the key that is known as the last one. -/
def remember (key : Option Key) : Effects :=
  modify fun p ↦ { p with last := key }

/-- The effects of a call in their order. -/
def effects : Call → Effects
  | .press value => do
    let key ← ofExcept (Key.ofJson value)
    mark (·.press key)
    remember (some key)
  | .release value => do
    let key ← ofExcept (Key.ofJson value)
    mark (·.release key)
  | .releaseAll => mark .releaseAll
  | .reset => do
    mark .releaseAll
    remember none

/-- The result of a call, and the keypad after it. -/
def call (p : Keypad) (c : Call) : Except KeyError Unit × Keypad :=
  (ExceptT.run (effects c)).run p

/-- The keypad after calls one after the other. -/
def callAll (p : Keypad) (calls : List Call) : Keypad :=
  calls.foldl (fun p c ↦ (p.call c).2) p

namespace Call

/-- The key that a call presses or releases, if its value stands for one. -/
def key? : Call → Option Key
  | press value | release value => (Key.ofJson value).toOption
  | releaseAll | reset => none

/-- The key that a call presses. -/
def pressed? : Call → Option Key
  | press value => (Key.ofJson value).toOption
  | release _ | releaseAll | reset => none

/-- Whether a call concerns a key. -/
def concerns (key : Key) : Call → Bool
  | press value | release value => (Key.ofJson value).toOption = some key
  | releaseAll | reset => true

/-- Whether a call is a reset. -/
def isReset : Call → Bool
  | reset => true
  | press _ | release _ | releaseAll => false

/-- The name of a call on the bench. -/
def name : Call → String
  | press _ => "press"
  | release _ => "release"
  | releaseAll => "release_all"
  | reset => "reset"

/-- The value that a call is given. -/
def value? : Call → Option Json
  | press value | release value => some value
  | releaseAll | reset => none

end Call

/-! ### Histories -/

/-- The last call that concerns a key. -/
def lastConcern? (calls : List Call) (key : Key) : Option Call :=
  (calls.filter (·.concerns key)).getLast?

/-- The last call that concerns a key pressed it. -/
def IsHeldAfter (calls : List Call) (key : Key) : Prop :=
  (lastConcern? calls key).bind Call.pressed? = some key

instance (calls : List Call) (key : Key) : Decidable (IsHeldAfter calls key) :=
  inferInstanceAs (Decidable (_ = _))

/-- The key that was pressed last since the last reset. -/
def lastPress? (calls : List Call) : Option Key :=
  ((calls.rtakeWhile fun c ↦ !c.isReset).filterMap Call.pressed?).getLast?

/-! ### One call -/

variable {p : Keypad}

theorem call_press (p : Keypad) (value : Json) :
    p.call (.press value) =
      match Key.ofJson value with
      | .ok key => (.ok (), p.press key)
      | .error cause => (.error cause, p) := by
  rw [call, effects]
  cases Key.ofJson value <;> rfl

theorem call_release (p : Keypad) (value : Json) :
    p.call (.release value) =
      match Key.ofJson value with
      | .ok key => (.ok (), p.release key)
      | .error cause => (.error cause, p) := by
  rw [call, effects]
  cases Key.ofJson value <;> rfl

@[simp]
theorem call_releaseAll (p : Keypad) : p.call .releaseAll = (.ok (), p.releaseAll) :=
  rfl

@[simp]
theorem call_reset (p : Keypad) : p.call .reset = (.ok (), .idle) :=
  rfl

/-- The bench carries out a call as it is. -/
theorem operateKeypad_eq_call (p : Keypad) (c : Call) :
    Bench.operateKeypad p c.name c.value? =
      (((p.call c).1.mapError BenchError.key).map fun _ ↦ Json.null, (p.call c).2) := by
  cases c with
  | press value =>
    rw [call_press]
    simp only [Bench.operateKeypad, Call.name, Call.value?]
    cases Key.ofJson value <;> rfl
  | release value =>
    rw [call_release]
    simp only [Bench.operateKeypad, Call.name, Call.value?]
    cases Key.ofJson value <;> rfl
  | releaseAll => rfl
  | reset => rfl

theorem isPressed_press (p : Keypad) (key other : Key) :
    (p.press key).isPressed other = if key = other then true else p.isPressed other := by
  simp only [Fin.ext_iff]
  exact Vector.getElem_set key.isLt other.isLt

theorem isPressed_release (p : Keypad) (key other : Key) :
    (p.release key).isPressed other = if key = other then false else p.isPressed other := by
  simp only [Fin.ext_iff]
  exact Vector.getElem_set key.isLt other.isLt

theorem isPressed_releaseAll (p : Keypad) (key : Key) : p.releaseAll.isPressed key = false :=
  Vector.getElem_replicate key.isLt

theorem isPressed_idle (key : Key) : idle.isPressed key = false :=
  Vector.getElem_replicate key.isLt

/-- A call that concerns a key holds it exactly if it presses it. Other calls leave the key as it
is. -/
theorem isPressed_call (p : Keypad) (c : Call) (key : Key) :
    (p.call c).2.isPressed key =
      if c.concerns key then decide (c.pressed? = some key) else p.isPressed key := by
  cases c with
  | press value =>
    rw [call_press, Call.concerns, Call.pressed?]
    cases Key.ofJson value with
    | error => rfl
    | ok named =>
      by_cases hnamed : named = key <;> simp [isPressed_press, Except.toOption, hnamed]
  | release value =>
    rw [call_release, Call.concerns, Call.pressed?]
    cases Key.ofJson value with
    | error => rfl
    | ok named =>
      by_cases hnamed : named = key <;> simp [isPressed_release, Except.toOption, hnamed]
  | releaseAll => exact p.isPressed_releaseAll key
  | reset => exact isPressed_idle key

/-- A press that succeeds is known as the last one, and a reset forgets it. -/
theorem last_call (p : Keypad) (c : Call) :
    (p.call c).2.last = if c.isReset then none else c.pressed?.or p.last := by
  cases c with
  | press value =>
    rw [call_press, Call.pressed?]
    cases Key.ofJson value <;> rfl
  | release value =>
    rw [call_release]
    cases Key.ofJson value <;> rfl
  | releaseAll => rfl
  | reset => rfl

/-- A call that is refused changes nothing. -/
theorem call_of_error {c : Call} {cause : KeyError} (hrefused : (p.call c).1 = .error cause) :
    (p.call c).2 = p := by
  cases c with
  | press value =>
    rw [call_press] at hrefused ⊢
    cases hkey : Key.ofJson value with
    | error => rfl
    | ok key =>
      rw [hkey] at hrefused
      cases hrefused
  | release value =>
    rw [call_release] at hrefused ⊢
    cases hkey : Key.ofJson value with
    | error => rfl
    | ok key =>
      rw [hkey] at hrefused
      cases hrefused
  | releaseAll | reset => cases hrefused

/-! ### All calls -/

theorem callAll_concat (p : Keypad) (calls : List Call) (c : Call) :
    p.callAll (calls ++ [c]) = ((p.callAll calls).call c).2 := by
  rw [callAll, List.foldl_append]
  rfl

theorem lastConcern?_concat (calls : List Call) (c : Call) (key : Key) :
    lastConcern? (calls ++ [c]) key =
      if c.concerns key then some c else lastConcern? calls key := by
  rw [lastConcern?, List.filter_append, List.filter_singleton]
  cases c.concerns key with
  | true => exact List.getLast?_concat
  | false =>
    rw [if_neg Bool.false_ne_true]
    exact congrArg List.getLast? (List.append_nil _)

theorem lastPress?_concat (calls : List Call) (c : Call) :
    lastPress? (calls ++ [c]) = if c.isReset then none else c.pressed?.or (lastPress? calls) := by
  rw [lastPress?, List.rtakeWhile_concat]
  cases c.isReset with
  | true => rfl
  | false =>
    cases hpressed : c.pressed? with
    | none => simp [hpressed, lastPress?]
    | some key => simp [hpressed]

/-- A key is held if and only if the last call that concerns it pressed it. -/
theorem isPressed_callAll (calls : List Call) (key : Key) :
    (idle.callAll calls).isPressed key = true ↔ IsHeldAfter calls key := by
  induction calls using List.reverseRecOn with
  | nil => simp [callAll, isPressed_idle, IsHeldAfter, lastConcern?]
  | append_singleton calls c ih =>
    rw [callAll_concat, isPressed_call, IsHeldAfter, lastConcern?_concat]
    cases c.concerns key with
    | true => exact decide_eq_true_iff
    | false => exact ih

theorem last_callAll (calls : List Call) : (idle.callAll calls).last = lastPress? calls := by
  induction calls using List.reverseRecOn with
  | nil => rfl
  | append_singleton calls c ih => rw [callAll_concat, last_call, ih, lastPress?_concat]

/-! ### Readers -/

theorem pairwise_pressedKeys (p : Keypad) : p.pressedKeys.Pairwise (· < ·) :=
  (List.pairwise_lt_finRange 16).filter _

theorem anyPressed_iff : p.anyPressed = true ↔ p.pressedKeys ≠ [] := by
  rw [ne_eq, ← anyPressed_eq_false_iff, Bool.not_eq_false]

theorem pressedKeys_congr {q : Keypad} (hsame : ∀ key, p.isPressed key = q.isPressed key) :
    p.pressedKeys = q.pressedKeys := by
  rw [pressedKeys, pressedKeys, funext hsame]

/-! ### Order -/

/-- A call on one key does not concern another. -/
theorem Call.concerns_eq_false {c : Call} {named key : Key} (hnamed : c.key? = some named)
    (hother : key ≠ named) : c.concerns key = false := by
  cases c with
  | press value | release value =>
    rw [Call.key?] at hnamed
    rw [Call.concerns, hnamed, decide_eq_false_iff_not, Option.some_inj]
    exact hother.symm
  | releaseAll | reset => cases hnamed

/-- Calls on different keys may come in either order, wherever they stand. -/
theorem pressedKeys_callAll_swap {first second : Call} {j k : Key} (hfirst : first.key? = some j)
    (hsecond : second.key? = some k) (hdifferent : j ≠ k) (before after : List Call) :
    (idle.callAll (before ++ first :: second :: after)).pressedKeys =
      (idle.callAll (before ++ second :: first :: after)).pressedKeys := by
  apply pressedKeys_congr
  intro key
  -- At most one of the two concerns the key, so the calls that concern it are the same ones.
  have hone : first.concerns key = false ∨ second.concerns key = false := by
    by_cases hkey : key = j
    · exact .inr (Call.concerns_eq_false hsecond (hkey ▸ hdifferent))
    · exact .inl (Call.concerns_eq_false hfirst hkey)
  have hfilter : (before ++ first :: second :: after).filter (·.concerns key) =
      (before ++ second :: first :: after).filter (·.concerns key) := by
    simp only [List.filter_append, List.filter_cons]
    obtain hother | hother := hone <;> rw [hother] <;> rfl
  rw [Bool.eq_iff_iff, isPressed_callAll, isPressed_callAll, IsHeldAfter, IsHeldAfter,
    lastConcern?, lastConcern?, hfilter]

end Keypad

/-- A keypad follows its calls. A key is held if and only if the last call that concerns it pressed
it, and the key that is known as the last one is the one pressed last since the last reset. The held
keys are listed in ascending order, and some key is held if and only if the list has one. The bench
carries out the same calls, and a call that is refused changes nothing. Two calls on different keys
may be exchanged where they stand next to each other. -/
theorem keypad_follows_its_calls (calls : List Keypad.Call) :
    let p := Keypad.idle.callAll calls
    (∀ key, p.isPressed key = true ↔ Keypad.IsHeldAfter calls key) ∧
    p.last = Keypad.lastPress? calls ∧
    p.pressedKeys.Pairwise (· < ·) ∧ (∀ key, key ∈ p.pressedKeys ↔ p.isPressed key = true) ∧
    (p.anyPressed = true ↔ p.pressedKeys ≠ []) ∧
    (∀ c : Keypad.Call,
      Bench.operateKeypad p c.name c.value? =
        (((p.call c).1.mapError BenchError.key).map fun _ ↦ Json.null, (p.call c).2) ∧
      ∀ cause, (p.call c).1 = .error cause → (p.call c).2 = p) ∧
    ∀ (before after : List Keypad.Call) (first second : Keypad.Call) (j k : Key),
      calls = before ++ first :: second :: after →
      first.key? = some j → second.key? = some k → j ≠ k →
      (Keypad.idle.callAll (before ++ second :: first :: after)).pressedKeys = p.pressedKeys := by
  intro p
  refine ⟨Keypad.isPressed_callAll calls, Keypad.last_callAll calls, p.pairwise_pressedKeys,
    fun _ ↦ Keypad.mem_pressedKeys, Keypad.anyPressed_iff, ?_, ?_⟩
  · intro c
    exact ⟨p.operateKeypad_eq_call c, fun _ ↦ Keypad.call_of_error⟩
  · rintro before after first second j k rfl hfirst hsecond hdifferent
    exact (Keypad.pressedKeys_callAll_swap hfirst hsecond hdifferent before after).symm

/-- A number, a truth value and a text name keys, and a larger number names none. One of the keys is
released. -/
theorem keypad_follows_its_calls_of_some :
    let calls : List Keypad.Call :=
      [.press (.int 5), .press (.bool true), .press (.int 16), .release (.text "5")]
    let exchanged : List Keypad.Call :=
      [.press (.bool true), .press (.int 5), .press (.int 16), .release (.text "5")]
    let p := Keypad.idle.callAll calls
    p.isPressed 1 = true ∧ ¬ p.isPressed 5 = true ∧ p.last = some 1 ∧
      (p.call (.press .null)).2 = p ∧
      (Keypad.idle.callAll exchanged).pressedKeys = p.pressedKeys := by
  intro calls exchanged p
  obtain ⟨hheld, hlast, -, -, -, hcalls, hswap⟩ := keypad_follows_its_calls calls
  have hone : Keypad.IsHeldAfter calls 1 := by decide +kernel
  have hfive : ¬ Keypad.IsHeldAfter calls 5 := by decide +kernel
  have hpress : Keypad.lastPress? calls = some 1 := by decide +kernel
  refine ⟨(hheld 1).mpr hone, (hheld 5).not.mpr hfive, hlast.trans hpress, ?_, ?_⟩
  · exact (hcalls (.press .null)).2 (.notANumber .null) rfl
  · exact hswap [] [.press (.int 16), .release (.text "5")] (.press (.int 5)) (.press (.bool true))
      5 1 rfl rfl rfl (by decide)

end Cosmac
