import Cosmac.Machine.Basic

/-!
# Execution

`Machine.execute` gives each instruction its meaning, `Machine.step` executes the word at the
program counter, and `Machine.run` takes several steps. `Machine.tick` counts the timers down.
-/

set_option autoImplicit false

namespace Cosmac

/-- What a combination of two registers leaves in the first, and the flag if it sets one. -/
def Combination.apply (operation : Combination) (a b : UInt8) : UInt8 × Option Bool :=
  match operation with
  | copy => (b, none)
  | or => (a ||| b, none)
  | and => (a &&& b, none)
  | xor => (a ^^^ b, none)
  | add => (a + b, some (255 < a.toNat + b.toNat))
  | subtract => (a - b, some (b < a))
  | subtractFrom => (b - a, some (a < b))

/-- What a step did. -/
inductive Outcome where
  /-- A word was executed; if it was no instruction, a diagnostic arose. -/
  | executed (word : Word) (diagnostic : Option Diagnostic)
  /-- The instruction faulted and halted the machine. -/
  | faulted (fault : Fault)
  /-- Nothing happened, because an earlier fault has halted the machine. -/
  | refused (fault : Fault)
  deriving DecidableEq, Repr

/-- The wording of a refusal. -/
def refusalMessage (fault : Fault) : String :=
  "machine halted by earlier fault: " ++ fault.message

namespace Machine

/-! ### Instructions -/

/-- The address of the next instruction, or of the one after it if the next is skipped. -/
def skipIf (m : Machine) (condition : Bool) : Int :=
  m.pc + if condition then 4 else 2

/-- The registers up to and including `x`. -/
def registersUpTo (m : Machine) (x : Register) : List UInt8 :=
  m.registers.toList.take (x.val + 1)

/-- Loads the registers up to and including `x` from the index on. -/
def loadRegisters (m : Machine) (x : Register) : Machine :=
  { m with
    registers := Vector.ofFn fun (r : Fin 16) ↦
      if r ≤ x then m.read (m.index + r.val) else m.register r }

/-- Combines two registers into the first. -/
def combine (m : Machine) (operation : Combination) (x y : Register) : Machine :=
  match operation.apply (m.register x) (m.register y) with
  | (value, some flag) => m.setWithFlag x value flag
  | (value, none) => m.setRegister x value

/-- Draws the sprite at the index at the place that two registers name. -/
def drawSprite (m : Machine) (x y : Register) (rows : Nibble) : Machine :=
  let (screen, collision) := m.screen.draw (m.register x).toNat (m.register y).toNat
    (m.readBlock m.index rows)
  { m with screen := screen }.setRegister flagRegister (if collision then 1 else 0)

/-- The key that a register names by its low digit. -/
def namedKey (m : Machine) (x : Register) : Key :=
  ⟨(m.register x).toNat % 16, by omega⟩

/-- The machine after an instruction, before the program counter moves, and where execution
continues. -/
def execute (m : Machine) : Instruction → Except StackError (Machine × Int)
  | .clearScreen => .ok ({ m with screen := m.screen.clear }, m.pc + 2)
  | .ret =>
    match m.stack.pop? with
    | some (address, stack) => .ok ({ m with stack := stack }, address.toNat)
    | none => .error .empty
  | .jump target => .ok (m, target.val)
  | .call target =>
    match m.stack.push? (Word.ofInt (m.pc + 2)) with
    | some stack => .ok ({ m with stack := stack }, target.val)
    | none => .error .full
  | .skipIfByte x byte => .ok (m, m.skipIf (m.register x == byte))
  | .skipUnlessByte x byte => .ok (m, m.skipIf (m.register x != byte))
  | .skipIfSame x y => .ok (m, m.skipIf (m.register x == m.register y))
  | .skipUnlessSame x y => .ok (m, m.skipIf (m.register x != m.register y))
  | .setByte x byte => .ok (m.setRegister x byte, m.pc + 2)
  | .addByte x byte => .ok (m.setRegister x (m.register x + byte), m.pc + 2)
  | .combine operation x y => .ok (m.combine operation x y, m.pc + 2)
  | .shiftRight x =>
    let value := m.register x
    .ok (m.setWithFlag x (value >>> 1) (value.toNat % 2 = 1), m.pc + 2)
  | .shiftLeft x =>
    let value := m.register x
    .ok (m.setWithFlag x (value <<< 1) (128 ≤ value.toNat), m.pc + 2)
  | .setIndex target => .ok ({ m with index := target.val }, m.pc + 2)
  | .jumpOffset target =>
    .ok (m, target.val + (m.register (Instruction.offsetRegister target)).toNat)
  | .random x mask =>
    let (byte, source) := m.source.draw
    .ok ({ m with source := source }.setRegister x (byte &&& mask), m.pc + 2)
  | .draw x y rows => .ok (m.drawSprite x y rows, m.pc + 2)
  | .skipIfPressed x => .ok (m, m.skipIf (m.keypad.isPressed (m.namedKey x)))
  | .skipUnlessPressed x => .ok (m, m.skipIf (!m.keypad.isPressed (m.namedKey x)))
  | .readDelay x => .ok (m.setRegister x m.timers.delay, m.pc + 2)
  | .waitForKey x =>
    match m.keypad.delivered? with
    | some key =>
      .ok ({ m with waitingForKey := false }.setRegister x (UInt8.ofNat key), m.pc + 2)
    | none => .ok ({ m with waitingForKey := true }, m.pc)
  | .setDelay x =>
    .ok ({ m with timers := { m.timers with delay := m.register x } }, m.pc + 2)
  | .setSound x =>
    .ok ({ m with timers := { m.timers with sound := m.register x } }, m.pc + 2)
  | .addIndex x =>
    .ok ({ m with index := (m.index + (m.register x).toNat) % 65536 }, m.pc + 2)
  | .pointToGlyph x => .ok ({ m with index := Font.addressOf (m.namedKey x) }, m.pc + 2)
  | .storeDecimal x =>
    let value := m.register x
    .ok (m.writeBlock m.index [value / 100, value / 10 % 10, value % 10], m.pc + 2)
  | .storeRegisters x => .ok (m.writeBlock m.index (m.registersUpTo x), m.pc + 2)
  | .loadRegisters x => .ok (m.loadRegisters x, m.pc + 2)

/-! ### Steps -/

/-- Remembers a diagnostic, at the cost of the oldest one when there are too many. -/
def report (m : Machine) (event : Diagnostic) : Machine :=
  { m with diagnostics := keepLast diagnosticLimit (m.diagnostics ++ [event]) }

/-- Moves the program counter and counts the step. A step that leaves the machine waiting has not
completed its instruction. -/
def complete (m : Machine) (next : Int) : Machine :=
  { m with
    pc := next % 65536
    cycleCount := m.cycleCount + 1
    instructionCount := if m.waitingForKey then m.instructionCount else m.instructionCount + 1 }

/-- Executes the word at the program counter. A word that is no instruction is reported and passed
over; a fault changes nothing but halts the machine. -/
def step (m : Machine) : Outcome × Machine :=
  match m.fault with
  | some fault => (.refused fault, m)
  | none =>
    let word := m.fetch
    match Instruction.decode? word with
    | none =>
      let event : Diagnostic := ⟨m.pc, word⟩
      (.executed word (some event), (m.report event).complete (m.pc + 2))
    | some instruction =>
      match m.execute instruction with
      | .ok (after, next) => (.executed word none, after.complete next)
      | .error error =>
        let fault : Fault := ⟨error, m.pc, word⟩
        (.faulted fault, { m with fault := some fault })

/-- Takes up to the given number of steps and stops after one that does not execute a word. The
outcomes are listed in order. -/
def run (m : Machine) : Nat → List Outcome × Machine
  | 0 => ([], m)
  | count + 1 =>
    match m.step with
    | (.executed word diagnostic, after) =>
      let (outcomes, final) := after.run count
      (.executed word diagnostic :: outcomes, final)
    | (stopped, after) => ([stopped], after)

/-- Counts the timers down. The answer tells whether the tone sounded. -/
def tick (m : Machine) : Bool × Machine :=
  let (timers, tone) := m.timers.tick
  (tone, { m with timers := timers })

end Machine

end Cosmac
