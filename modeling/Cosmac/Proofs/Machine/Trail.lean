import Cosmac.Proofs.Machine.Operation

/-!
# Trails

A run stops at one machine after another (`Machine.stops`): before each of its steps there is a
machine that is about to take it. The steps at its stops have the outcomes of the run
(`Machine.outcomes_perform`). A `Trail` is a machine together with the stops since its program was
started last, so that the steps of a kind can be counted after any operations.
`Trail.OperateCase` lists what an operation can do to a trail, and `Trail.run_of_step` brings what
steps preserve to runs.
-/

set_option autoImplicit false

namespace Cosmac

namespace Machine

/-- The machines that are about to take a step, in a run of at most the given length. -/
def stops (m : Machine) : Nat → List Machine
  | 0 => []
  | count + 1 =>
    match m.step with
    | (.executed _ _, after) => m :: after.stops count
    | _ => [m]

/-- The machines that are about to take a step, in an operation. -/
def stopsOf (m : Machine) : Operation → List Machine
  | .ask .step => [m]
  | .ask (.run count) => m.stops count.toNat
  | _ => []

/-- The outcomes of a run are those of the steps at its stops. -/
theorem outcomes_run (count : Nat) (m : Machine) :
    (m.run count).1 = (m.stops count).map fun stop ↦ stop.step.1 := by
  induction count generalizing m with
  | zero => rfl
  | succ count ih =>
    rw [run, stops]
    cases hstep : m.step with
    | mk outcome after =>
      have houtcome : outcome = m.step.1 := congrArg Prod.fst hstep.symm
      cases outcome with
      | executed => exact congrArg₂ List.cons houtcome (ih after)
      | faulted | refused => exact congrArg (fun outcome ↦ [outcome]) houtcome

/-- The outcomes of an action are those of the steps at its stops. -/
theorem outcomes_perform (m : Machine) (action : HostAction) :
    (m.perform action).1 = (m.stopsOf (.ask action)).map fun stop ↦ stop.step.1 := by
  cases action with
  | run count => exact outcomes_run count.toNat m
  | load bytes =>
    simp only [perform]
    split <;> rfl
  | _ => rfl

end Machine

/-- A machine and the way that it has come. -/
structure Trail where
  /-- The machine. -/
  machine : Machine
  /-- The machines that were about to take a step, since the program was started last. -/
  stops : List Machine

namespace Trail

/-- The trail of a machine that is switched on. -/
def start (program : Program) (screen : Framebuffer) (keypad : Keypad) (source : ByteSource) :
    Trail :=
  ⟨.powerOn program screen keypad source, []⟩

/-- The trail after an operation. -/
def operate (t : Trail) (operation : Operation) : Trail where
  machine := t.machine.operate operation
  stops := if operation.restarts then [] else t.stops ++ t.machine.stopsOf operation

/-- The trail after operations one after the other. -/
def operateAll (t : Trail) (operations : List Operation) : Trail :=
  operations.foldl operate t

variable {t : Trail}

theorem operateAll_cons (t : Trail) (operation : Operation) (rest : List Operation) :
    t.operateAll (operation :: rest) = (t.operate operation).operateAll rest :=
  rfl

theorem operate_step (t : Trail) :
    t.operate (.ask .step) = ⟨t.machine.step.2, t.stops ++ [t.machine]⟩ :=
  rfl

/-- What steps preserve, runs preserve. -/
theorem run_of_step {P : Trail → Prop}
    (hstep : ∀ t : Trail, P t → P ⟨t.machine.step.2, t.stops ++ [t.machine]⟩) (count : Nat)
    (ht : P t) : P ⟨(t.machine.run count).2, t.stops ++ t.machine.stops count⟩ := by
  induction count generalizing t with
  | zero =>
    show P ⟨t.machine, t.stops ++ []⟩
    rwa [List.append_nil]
  | succ count ih =>
    have hfirst : P ⟨t.machine.step.2, t.stops ++ [t.machine]⟩ := hstep t ht
    rw [Machine.run, Machine.stops]
    generalize t.machine.step = result at hfirst
    obtain ⟨outcome, after⟩ := result
    cases outcome with
    | executed =>
      have hlater : P ⟨(after.run count).2, (t.stops ++ [t.machine]) ++ after.stops count⟩ :=
        ih hfirst
      rwa [List.append_assoc] at hlater
    | faulted | refused => exact hfirst

/-- What an operation can do to a trail. -/
inductive OperateCase (t : Trail) : Operation → Trail → Prop
  /-- It takes a step. -/
  | stepped : OperateCase t (.ask .step) ⟨t.machine.step.2, t.stops ++ [t.machine]⟩
  /-- It takes several steps. -/
  | ran {count : Int} :
      OperateCase t (.ask (.run count))
        ⟨(t.machine.run count.toNat).2, t.stops ++ t.machine.stops count.toNat⟩
  /-- It starts a program. -/
  | restarted {operation : Operation} {program : Program} :
      OperateCase t operation
        ⟨.powerOn program t.machine.screen t.machine.keypad t.machine.source, []⟩
  /-- It works with the devices, or from outside with the memory, the registers and the program
  counter. -/
  | altered {operation : Operation} {memory : Vector UInt8 4096} {registers : Vector UInt8 16}
      {pc : Int} {timers : Timers} {keypad : Keypad}
      (horderly : operation.isOrderly = true → memory = t.machine.memory ∧ pc = t.machine.pc) :
      OperateCase t operation
        ⟨{ t.machine with
          memory := memory
          registers := registers
          pc := pc
          timers := timers
          keypad := keypad }, t.stops⟩

/-- An operation that takes no step and starts no program leaves the stops as they are. -/
theorem operate_of_continues {operation : Operation} (hrestarts : operation.restarts = false)
    (hstops : t.machine.stopsOf operation = []) :
    t.operate operation = ⟨t.machine.operate operation, t.stops⟩ := by
  rw [operate, hrestarts, hstops, List.append_nil]
  rfl

theorem operate_cases {operation : Operation} {after : Trail}
    (hafter : t.operate operation = after) : OperateCase t operation after := by
  subst hafter
  have hkept (_ : true = true) :
      t.machine.memory = t.machine.memory ∧ t.machine.pc = t.machine.pc := ⟨rfl, rfl⟩
  cases operation with
  | resetKeypad =>
    rw [operate_of_continues rfl rfl]
    exact .altered hkept
  | moveTo =>
    rw [operate_of_continues rfl rfl]
    exact .altered fun horderly ↦ absurd horderly Bool.false_ne_true
  | ask action =>
    cases action with
    | step => exact .stepped
    | run => exact .ran
    | tick | releaseAll | setRegister =>
      rw [operate_of_continues rfl rfl]
      exact .altered hkept
    | press number | release number =>
      rw [operate_of_continues rfl rfl, Machine.operate, Machine.perform, Machine.onKey_eq]
      exact .altered hkept
    | write =>
      rw [operate_of_continues rfl rfl]
      exact .altered fun horderly ↦ absurd horderly Bool.false_ne_true
    | reset => exact .restarted
    | load bytes =>
      by_cases hfits : bytes.size ≤ maxProgramSize
      · have hrestarts : (Operation.ask (.load bytes)).restarts = true := decide_eq_true hfits
        have hmachine : t.machine.operate (.ask (.load bytes)) =
            .powerOn ⟨bytes, hfits⟩ t.machine.screen t.machine.keypad t.machine.source := by
          simp only [Machine.operate, Machine.perform, Machine.load, Program.ofBytes, dif_pos hfits]
        rw [operate, hrestarts, hmachine]
        exact .restarted
      · have hcontinues : (Operation.ask (.load bytes)).restarts = false := decide_eq_false hfits
        have hmachine : t.machine.operate (.ask (.load bytes)) = t.machine := by
          simp only [Machine.operate, Machine.perform, Machine.load, Program.ofBytes, dif_neg hfits]
        rw [operate_of_continues hcontinues rfl, hmachine]
        exact .altered hkept

end Trail

end Cosmac
