import Cosmac.Proofs.Machine.Execution
import Cosmac.Proofs.Machine.History

/-!
# Calls and returns nest

`stack_step` says what a step does to the call stack, and `depth_perform` that the depth counts the
calls and returns of an action. The slots below a depth stay as they are while the stack is deeper
(`StackAbove`), so that the return which leaves a call continues after it
(`return_continues_after_call`).
-/

set_option autoImplicit false

namespace Cosmac

/-! ### Steps -/

namespace Machine

/-- A step pushes the address of the next word if it completes a call, pops the address where it
continues if it completes a return, and otherwise leaves the call stack alone. -/
theorem stack_step (m : Machine) :
    (m.step.1.isCall = true ∧ m.step.1.isReturn = false ∧
      m.stack.push? (Word.ofInt (m.pc + 2)) = some m.step.2.stack) ∨
    (m.step.1.isCall = false ∧ m.step.1 = .executed 0x00EE none ∧
      ∃ address, m.stack.pop? = some (address, m.step.2.stack) ∧ m.step.2.pc = address.toNat) ∨
    (m.step.1.isCall = false ∧ m.step.1.isReturn = false ∧ m.step.2.stack = m.stack) := by
  generalize hresult : m.step = result
  cases step_cases hresult with
  | refused | faulted => exact .inr (.inr ⟨rfl, rfl, rfl⟩)
  | reported hrunning hdecode =>
    right
    right
    have hcall := Instruction.family_ne_of_decode? (w := m.fetch) (by rw [hdecode]; nofun)
    have hret := Instruction.ne_of_decode? (w := m.fetch) (by rw [hdecode]; nofun)
    exact ⟨decide_eq_false fun hfamily ↦ hcall (Fin.ext hfamily), decide_eq_false hret, rfl⟩
  | completed hrunning hdecode hexecute =>
    cases execute_cases hexecute with
    | called hpush =>
      left
      have hcall := (Instruction.decode?_eq_call_iff.mp hdecode).1
      have hret := Instruction.ne_of_decode? (w := m.fetch) (by rw [hdecode]; nofun)
      exact ⟨decide_eq_true (congrArg Fin.val hcall), decide_eq_false hret, hpush⟩
    | @returned address stack hpop =>
      right
      left
      have hword := Instruction.decode?_eq_ret_iff.mp hdecode
      refine ⟨by rw [hword]; rfl, by rw [hword], address, hpop, ?_⟩
      have := address.toNat_lt
      show (address.toNat : Int) % 65536 = address.toNat
      omega
    | pointed hother hnoReturn | worked hother hnoReturn =>
      right
      right
      have hcall := Instruction.family_ne_of_decode? (w := m.fetch)
        fun target ↦ by rw [hdecode, ne_eq, Option.some.injEq]; exact hother target
      have hret := Instruction.ne_of_decode? (w := m.fetch)
        (by rw [hdecode, ne_eq, Option.some.injEq]; exact hnoReturn)
      exact ⟨decide_eq_false fun hfamily ↦ hcall (Fin.ext hfamily), decide_eq_false hret, rfl⟩

/-- A step counts in the depth of the call stack. -/
theorem depth_step (m : Machine) :
    m.step.2.stack.depth.val + [m.step.1].countP Outcome.isReturn =
      m.stack.depth.val + [m.step.1].countP Outcome.isCall := by
  rcases m.stack_step with ⟨hcall, hret, hpush⟩ | ⟨hcall, hret, address, hpop, -⟩ |
    ⟨hcall, hret, hstack⟩
  · rw [List.countP_singleton, List.countP_singleton, hcall, hret, CallStack.depth_of_push? hpush]
    rfl
  · have hisReturn : m.step.1.isReturn = true := by rw [hret]; rfl
    rw [List.countP_singleton, List.countP_singleton, hcall, hisReturn,
      CallStack.depth_of_pop? hpop]
    rfl
  · rw [List.countP_singleton, List.countP_singleton, hcall, hret, hstack]

/-- A run counts in the depth of the call stack. -/
theorem depth_run (count : Nat) (m : Machine) :
    (m.run count).2.stack.depth.val + (m.run count).1.countP Outcome.isReturn =
      m.stack.depth.val + (m.run count).1.countP Outcome.isCall := by
  induction count generalizing m with
  | zero => rfl
  | succ count ih =>
    have hstep := m.depth_step
    rw [run]
    generalize m.step = result at hstep
    obtain ⟨outcome, after⟩ := result
    cases outcome with
    | executed word diagnostic =>
      have hrest := ih after
      simp only [List.countP_cons (l := (after.run count).1)]
      simp only [List.countP_singleton] at hstep
      omega
    | faulted | refused => exact hstep

/-- Unless a program is started, an action counts in the depth of the call stack. -/
theorem depth_perform (m : Machine) {action : HostAction} (hkeeps : action.restarts = false) :
    (m.perform action).2.stack.depth.val + (m.perform action).1.countP Outcome.isReturn =
      m.stack.depth.val + (m.perform action).1.countP Outcome.isCall := by
  cases action with
  | step => exact m.depth_step
  | run count => exact m.depth_run count.toNat
  | tick | releaseAll | write | setRegister => rfl
  | press number | release number =>
    simp only [perform, onKey]
    split <;> rfl
  | reset => cases hkeeps
  | load bytes =>
    have hlarge : ¬ bytes.size ≤ maxProgramSize := of_decide_eq_false hkeeps
    simp only [perform, load, Program.ofBytes, dif_neg hlarge]
    rfl

end Machine

/-! ### The stack below a depth -/

/-- Whether an action goes on with a program by at most one step. Runs are several steps. -/
def HostAction.isSingle : HostAction → Bool
  | run _ => false
  | action => !action.restarts

namespace Machine

/-- The call stack is deeper than `depth`, where a return address is saved, and below it the slots
are those of another stack. -/
structure StackAbove (m : Machine) (stack : CallStack) (depth : Fin 16) (address : UInt16) :
    Prop where
  /-- The stack is deeper. -/
  deep : depth.val < m.stack.depth.val
  /-- The return address is saved. -/
  saved : m.stack.slots.get depth = address
  /-- The slots below are the same. -/
  below : ∀ place : Fin 16, place < depth → m.stack.slots.get place = stack.slots.get place

variable {m : Machine} {stack : CallStack} {depth : Fin 16} {address : UInt16}

/-- A step leaves the slots in use alone, as far as they stay in use. -/
theorem slot_of_step (m : Machine) {place : Fin 16} (hbefore : place.val < m.stack.depth.val) :
    m.step.2.stack.slots.get place = m.stack.slots.get place := by
  rcases m.stack_step with ⟨-, -, hpush⟩ | ⟨-, -, address, hpop, -⟩ | ⟨-, -, hstack⟩
  · rw [CallStack.slot_of_push? hpush, if_neg (Nat.ne_of_lt hbefore)]
  · rw [CallStack.slots_of_pop? hpop]
  · rw [hstack]

/-- Only steps work with the call stack. -/
theorem stack_of_perform {action : HostAction} (hsingle : action.isSingle = true) :
    (m.perform action).2.stack = m.step.2.stack ∨ (m.perform action).2.stack = m.stack := by
  cases action with
  | step => exact .inl rfl
  | run | reset => cases hsingle
  | tick | releaseAll | write | setRegister => exact .inr rfl
  | press number | release number =>
    refine .inr ?_
    simp only [perform, onKey]
    split <;> rfl
  | load bytes =>
    have hlarge : ¬ bytes.size ≤ maxProgramSize := by
      simpa [HostAction.isSingle, HostAction.restarts] using hsingle
    refine .inr ?_
    simp only [perform, load, Program.ofBytes, dif_neg hlarge]

/-- What is saved up to a depth outlives every action after which the stack is still deeper. -/
theorem stackAbove_perform (habove : m.StackAbove stack depth address) {action : HostAction}
    (hsingle : action.isSingle = true)
    (hdeep : depth.val < (m.perform action).2.stack.depth.val) :
    (m.perform action).2.StackAbove stack depth address := by
  have hslot (place : Fin 16) (hplace : place ≤ depth) :
      (m.perform action).2.stack.slots.get place = m.stack.slots.get place := by
    rcases stack_of_perform hsingle with hstack | hstack
    · rw [hstack]
      exact m.slot_of_step (Nat.lt_of_le_of_lt hplace habove.deep)
    · rw [hstack]
  refine ⟨hdeep, ?_, ?_⟩
  · rw [hslot depth (Nat.le_refl _), habove.saved]
  · intro place hplace
    rw [hslot place (Nat.le_of_lt hplace), habove.below place hplace]

/-- What is saved up to a depth outlives all actions as long as the stack stays deeper. -/
theorem stackAbove_after (actions : List HostAction) :
    ∀ m : Machine, m.StackAbove stack depth address →
      (∀ action ∈ actions, action.isSingle = true) →
      (∀ count ≤ actions.length, depth.val < (m.after (actions.take count)).stack.depth.val) →
      ∀ count ≤ actions.length, (m.after (actions.take count)).StackAbove stack depth address := by
  induction actions with
  | nil =>
    intro m habove _ _ count hcount
    rw [List.take_nil]
    exact habove
  | cons action rest ih =>
    intro m habove hsingle hdeep count hcount
    cases count with
    | zero => exact habove
    | succ count =>
      have hfirst := stackAbove_perform habove (hsingle action List.mem_cons_self)
        (hdeep 1 (Nat.le_add_left 1 rest.length))
      apply ih _ hfirst _ _ count (Nat.le_of_succ_le_succ hcount)
      · intro other hother
        exact hsingle other (List.mem_cons_of_mem action hother)
      · intro later hlater
        exact hdeep (later + 1) (Nat.succ_le_succ hlater)

/-- A step that takes a deeper stack back to a depth is a return to the address saved there. -/
theorem step_of_stackAbove (habove : m.StackAbove stack depth address)
    (hback : m.step.2.stack.depth.val = depth.val) :
    m.step.1 = .executed 0x00EE none ∧ m.step.2.pc = address.toNat ∧
      m.step.2.stack.slots = m.stack.slots := by
  have hdeep := habove.deep
  rcases m.stack_step with ⟨-, -, hpush⟩ | ⟨-, hret, popped, hpop, hpc⟩ | ⟨-, -, hstack⟩
  · have := CallStack.depth_of_push? hpush
    omega
  · have hpopped := CallStack.address_of_pop? hpop hback.symm
    rw [habove.saved] at hpopped
    rw [← hpopped]
    exact ⟨hret, hpc, CallStack.slots_of_pop? hpop⟩
  · rw [hstack] at hback
    omega

/-- A call saves the address of the next word and leaves the slots in use alone. -/
theorem step_of_call (hrunning : m.fault = none) (hcall : m.fetch.family = 2)
    (hdepth : m.stack.depth.val = depth.val) :
    m.step.1 = .executed m.fetch none ∧ m.step.2.stack.depth.val = depth.val + 1 ∧
      m.step.2.StackAbove m.stack depth (Word.ofInt (m.pc + 2)) := by
  have hdecode := Instruction.decode?_eq_call_iff.mpr ⟨hcall, rfl⟩
  cases hexecute : m.execute (.call m.fetch.address) with
  | error error =>
    rcases execute_error_iff.mp hexecute with ⟨hret, -, -⟩ | ⟨-, hfull, -⟩
    · cases hret
    · omega
  | ok result =>
    rw [step_of_execute hrunning hdecode hexecute]
    cases execute_cases hexecute with
    | @called target stack hpush =>
      have hdeeper := CallStack.depth_of_push? hpush
      have hslot := CallStack.slot_of_push? hpush
      rw [hdepth] at hdeeper
      refine ⟨rfl, hdeeper, ?_, ?_, ?_⟩
      · exact Nat.lt_of_lt_of_eq (Nat.lt_succ_self _) hdeeper.symm
      · show stack.slots.get depth = _
        rw [hslot depth, if_pos hdepth.symm]
      · intro place hplace
        show stack.slots.get place = _
        rw [hslot place, if_neg (by omega)]
    | pointed hother | worked hother => exact absurd rfl (hother _)

end Machine

/-- A call returns to the word after it. Let a machine complete a call at depth `depth`, and let any
actions follow that take single steps and start no program, so that the stack stays deeper. The
first step that takes the stack back to `depth` is a return, it continues after the call, and all
the while the slots below `depth` are as they were before the call. -/
theorem return_continues_after_call {m : Machine} {actions : List HostAction} {depth : Fin 16}
    (hcall : m.fetch.family = 2) (hdepth : m.stack.depth.val = depth.val)
    (hsingle : ∀ action ∈ actions, action.isSingle = true)
    (hdeep : ∀ count ≤ actions.length,
      depth.val + 1 ≤ (m.step.2.after (actions.take count)).stack.depth.val)
    (hback : (m.step.2.after actions).step.2.stack.depth.val = depth.val) :
    m.step.1 = .executed m.fetch none ∧ m.step.2.stack.depth.val = depth.val + 1 ∧
    (m.step.2.after actions).step.1 = .executed 0x00EE none ∧
    (m.step.2.after actions).step.2.pc = (m.pc + 2) % 65536 ∧
    ∀ place < depth,
      (∀ count ≤ actions.length,
        (m.step.2.after (actions.take count)).stack.slots.get place = m.stack.slots.get place) ∧
      (m.step.2.after actions).step.2.stack.slots.get place = m.stack.slots.get place := by
  have hrunning : m.fault = none := by
    cases hfault : m.fault with
    | none => rfl
    | some fault =>
      -- A halted machine would not have become deeper.
      have hfirst := hdeep 0 (Nat.zero_le _)
      rw [Machine.step_of_halted hfault] at hfirst
      exact absurd (hdepth ▸ hfirst) (Nat.not_succ_le_self _)
  obtain ⟨hstep, hdeeper, habove⟩ := Machine.step_of_call hrunning hcall hdepth
  have hkept := Machine.stackAbove_after actions m.step.2 habove hsingle hdeep
  have hlast := hkept actions.length le_rfl
  rw [List.take_length] at hlast
  obtain ⟨hret, hpc, hslots⟩ := Machine.step_of_stackAbove hlast hback
  refine ⟨hstep, hdeeper, hret, ?_, ?_⟩
  · rw [hpc, Word.toNat_ofInt]
  · intro place hplace
    constructor
    · intro count hcount
      exact (hkept count hcount).below place hplace
    · rw [hslots]
      exact hlast.below place hplace

/-- A subroutine that returns at once, while a timer ticks and a key is pressed. -/
theorem return_continues_after_call_of_subroutine :
    let program : Program := ⟨#[0x22, 0x04, 0x00, 0x00, 0x00, 0xEE], by decide⟩
    let m := Machine.powerOn program .screen .idle .silent
    m.fetch.family = 2 ∧ (m.step.2.after [.tick, .press 5]).step.2.pc = 0x202 := by
  intro program m
  have hfetch : m.fetch = 0x2204 := by
    rw [Machine.fetch, Machine.read_powerOn, Machine.read_powerOn]
    decide
  have hcall : m.fetch.family = 2 := by rw [hfetch]; rfl
  have hrunning : m.fault = none := rfl
  have hdepth : m.stack.depth.val = (0 : Fin 16).val := rfl
  have hdecode : Instruction.decode? m.fetch = some (.call 0x204) := by rw [hfetch]; rfl
  let called : Machine := { m with stack := ⟨m.stack.slots.set 0 0x202, 1⟩ }
  have hexecute : m.execute (.call 0x204) = .ok (called, 0x204) := rfl
  have hstep : m.step.2 = called.complete 0x204 := by
    rw [Machine.step_of_execute hrunning hdecode hexecute]
  let later := m.step.2.after [.tick, .press 5]
  have hread (address : Int) : later.read address = m.read address := by
    simp only [later, hstep]
    rfl
  have hpc : later.pc = 0x204 := by
    simp only [later, hstep]
    rfl
  have hstack (n : Machine) (count : Nat) :
      (n.after (List.take count [.tick, .press 5])).stack = n.stack := by
    rcases count with _ | _ | _ | count <;> rfl
  have hlaterStack : later.stack = called.stack := (hstack _ 2).trans (by rw [hstep]; rfl)
  have hlater : later.fetch = 0x00EE := by
    rw [Machine.fetch, hread, hread, hpc, Machine.read_powerOn, Machine.read_powerOn]
    decide
  have hback : later.step.2.stack.depth.val = (0 : Fin 16).val := by
    have hpop : later.stack.pop? = some (0x202, ⟨called.stack.slots, 0⟩) := by
      rw [hlaterStack]
      rfl
    have hlaterRunning : later.fault = none := by
      simp only [later, hstep]
      rfl
    rw [Machine.step_of_execute hlaterRunning (by rw [hlater]; rfl)
      (Machine.execute_ret hpop)]
    rfl
  have hreturned := return_continues_after_call hcall hdepth (by decide)
    (fun count _ ↦ by rw [hstack, hstep]; exact Nat.le_refl 1) hback
  exact ⟨hcall, hreturned.2.2.2.1⟩

end Cosmac
