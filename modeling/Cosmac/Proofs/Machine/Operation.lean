import Cosmac.Proofs.Halting

/-!
# Operations

A host that holds the parts of a machine can do more than ask the machine for an action: it can
reset the keypad and assign the program counter. `Operation` is what it can do, `Machine.operate`
what becomes of the machine, and `Machine.reactions` what the host gets to see: of every step
whether and how it failed and which word it executed, but not where, and of every tick the tone.
-/

set_option autoImplicit false

namespace Cosmac

/-! ### What a host sees -/

/-- What came of a step, whatever the place where it happened. -/
inductive Outcome.Kind where
  /-- A word was executed. Given is also the word that was reported as unknown, if one was. -/
  | executed (word : Word) (reported : Option Word)
  /-- The call stack failed. -/
  | faulted (error : StackError)
  /-- The machine was halted. -/
  | refused
  deriving DecidableEq, Repr

/-- The kind of an outcome. -/
def Outcome.kind : Outcome → Outcome.Kind
  | executed word diagnostic => .executed word (diagnostic.map Diagnostic.word)
  | faulted fault => .faulted fault.error
  | refused _ => .refused

/-- What a host gets to see of an operation. -/
structure Reaction where
  /-- What came of each step. -/
  steps : List Outcome.Kind
  /-- Whether the tone sounded, if the timers were counted down. -/
  tone : Option Bool
  deriving DecidableEq, Repr

/-! ### Operations -/

/-- What a host can do to a machine whose parts it holds. -/
inductive Operation where
  /-- Asks the machine for an action. -/
  | ask (action : HostAction)
  /-- Releases every key and forgets which was pressed last. -/
  | resetKeypad
  /-- Assigns the program counter. -/
  | moveTo (address : Int)

namespace Operation

/-- Whether an operation takes steps, counts the timers down or works with the keypad. -/
def isPassive : Operation → Bool
  | ask action => action.isPassive
  | resetKeypad => true
  | moveTo _ => false

/-- Whether an operation leaves it to the machine to store to the memory and to move the program
counter. -/
def isOrderly : Operation → Bool
  | ask (.write _ _) | moveTo _ => false
  | ask _ | resetKeypad => true

/-- Whether an operation starts a program anew. -/
def restarts : Operation → Bool
  | ask action => action.restarts
  | resetKeypad | moveTo _ => false

end Operation

namespace Machine

/-- The machine after an operation. -/
def operate (m : Machine) : Operation → Machine
  | .ask action => (m.perform action).2
  | .resetKeypad => { m with keypad := .idle }
  | .moveTo address => { m with pc := address }

/-- The machine after operations one after the other. -/
def operateAll (m : Machine) (operations : List Operation) : Machine :=
  operations.foldl operate m

/-- What a host gets to see of an operation. -/
def reaction (m : Machine) : Operation → Reaction
  | .ask .tick => ⟨[], some m.tick.1⟩
  | .ask action => ⟨(m.perform action).1.map Outcome.kind, none⟩
  | .resetKeypad | .moveTo _ => ⟨[], none⟩

/-- What a host gets to see of operations one after the other. -/
def reactions (m : Machine) : List Operation → List Reaction
  | [] => []
  | operation :: rest => m.reaction operation :: (m.operate operation).reactions rest

end Machine

end Cosmac
