import Cosmac.Config.Basic
import Cosmac.Framebuffer.Image
import Cosmac.Machine.Start
import Cosmac.Machine.Step

/-!
# The service

A long-lived host keeps one machine, which is made when it is first needed, and remembers for its
users which unknown words were met and whether the tone sounds. Every operation gives its result
together with the service after it, also where it fails.
-/

set_option autoImplicit false

namespace Cosmac

/-- Why the service refuses an operation. -/
inductive ServiceError where
  /-- The machine cannot be made, or the program is refused. -/
  | start (cause : StartError)
  /-- There is no such key. -/
  | key (cause : KeyError)
  /-- The image cannot be made. -/
  | image (cause : ImageError)

/-- A service. -/
structure Service where
  /-- The configuration of its machines. -/
  config : Config
  /-- The files that it can read. -/
  files : Files
  /-- The program file of a new machine; without one it runs the demonstration. -/
  programFile : Option String
  /-- The machine, once it has been made. -/
  machine : Option Machine
  /-- The last unknown words that were met, the oldest first. -/
  diagnostics : List Diagnostic
  /-- Whether the tone sounded at the last tick. -/
  toneActive : Bool
  /-- Whether the service says that it is running. -/
  isRunning : Bool
  /-- Whether the runner has been asked to run. -/
  runRequested : Bool

namespace Service

/-- The number of unknown words that a service remembers. -/
def diagnosticLimit : Nat := 16

/-- A program that shows the glyph of the last key that was pressed. -/
def demonstration : Array UInt8 :=
  #[0x00, 0xE0, 0xF0, 0x0A, 0x00, 0xE0, 0xF0, 0x29, 0x61, 0x00, 0xD1, 0x15, 0x12, 0x02]

/-- A service that has no machine yet. -/
def ofConfig (config : Config) (files : Files) (programFile : Option String) : Service where
  config := config
  files := files
  programFile := programFile
  machine := none
  diagnostics := []
  toneActive := false
  isRunning := false
  runRequested := false

/-! ### The machine -/

/-- The program of a new machine. -/
def initialProgram (s : Service) : Except ProgramError (Array UInt8) :=
  match s.programFile with
  | none | some "" => .ok demonstration
  | some path => Program.fileBytes s.files (.ofString path)

/-- A new machine. -/
def newMachine (s : Service) : Except StartError Machine :=
  match s.initialProgram with
  | .error cause => .error (.program cause)
  | .ok bytes => Machine.ofConfig bytes s.config

/-- The machine, which is made first if there is none, and the service that holds it. -/
def ensureMachine (s : Service) : Except StartError (Machine × Service) :=
  match s.machine with
  | some machine => .ok (machine, s)
  | none =>
    match s.newMachine with
    | .ok machine => .ok (machine, { s with machine := some machine })
    | .error cause => .error cause

/-- Acts on the machine, if there is one or one can be made. -/
def onMachine {α : Type} (s : Service)
    (act : Machine → Service → Except ServiceError α × Service) : Except ServiceError α × Service :=
  match s.ensureMachine with
  | .ok (machine, s) => act machine s
  | .error cause => (.error (.start cause), s)

/-- Takes a step with the machine and remembers an unknown word. -/
def advance (s : Service) (machine : Machine) : Outcome × Service :=
  match machine.step with
  | (.executed word (some event), after) =>
    (.executed word (some event),
      { s with
        machine := some after
        diagnostics := keepLast diagnosticLimit (s.diagnostics ++ [event]) })
  | (outcome, after) => (outcome, { s with machine := some after })

/-! ### Running -/

/-- Asks the runner to run, unless a fault has halted the machine. -/
def run (s : Service) : Except ServiceError Bool × Service :=
  s.onMachine fun machine s ↦
    if machine.halted then (.ok false, s)
    else (.ok true, { s with isRunning := true, runRequested := true })

/-- Asks the runner to stop. -/
def pause (s : Service) : Service :=
  { s with isRunning := false, runRequested := false }

/-- Takes a single step. The answer tells whether the machine took it, even if it ended in a
fault. -/
def step (s : Service) : Except ServiceError Bool × Service :=
  s.onMachine fun machine s ↦
    if machine.halted then (.ok false, s) else (.ok true, (s.advance machine).2)

/-- Resets the machine and releases its keys. -/
def reset (s : Service) : Except ServiceError Unit × Service :=
  s.onMachine fun machine s ↦
    (.ok (), { s with
      machine := some { machine.reset with keypad := .idle }
      diagnostics := []
      toneActive := false })

/-- Counts the timers of a machine down. The answer tells whether the tone sounded. -/
def tickMachine (s : Service) (machine : Machine) : Bool × Service :=
  match machine.tick with
  | (true, after) => (true, { s with machine := some after, toneActive := true })
  | (false, after) => (false, { s with machine := some after })

/-- Counts the timers down. The answer tells whether the tone sounded. -/
def tick (s : Service) : Except ServiceError Bool × Service :=
  s.onMachine fun machine s ↦
    let (tone, s) := s.tickMachine machine
    (.ok tone, s)

/-- Gives the machine up. The next operation that needs one makes a new one. -/
def shutDown (s : Service) : Service :=
  { s with machine := none, diagnostics := [], isRunning := false, runRequested := false }

/-- Does something several times and lists the results, up to the first failure. The results so far
stand in reverse order. -/
def repeatedly {α : Type} (act : Service → Except ServiceError α × Service) (done : List α) :
    Nat → Service → Except ServiceError (List α) × Service
  | 0, s => (.ok done.reverse, s)
  | count + 1, s =>
    match act s with
    | (.ok result, s) => repeatedly act (result :: done) count s
    | (.error cause, s) => (.error cause, s)

/-! ### Programs -/

/-- Replaces the program and resets the machine. The answer is the size of the program. -/
def load (s : Service) (bytes : Array UInt8) : Except ServiceError Nat × Service :=
  s.onMachine fun machine s ↦
    match machine.load bytes with
    | .ok machine =>
      (.ok machine.program.bytes.size, { s with machine := some machine, diagnostics := [] })
    | .error cause => (.error (.start (.program cause)), s)

/-- Replaces the program with that of a file. -/
def loadFile (s : Service) (path : String) : Except ServiceError Nat × Service :=
  match Program.fileBytes s.files (.ofString path) with
  | .ok bytes => s.load bytes
  | .error cause => (.error (.start (.program cause)), s)

/-- The program of the machine. -/
def program (s : Service) : Except ServiceError (Array UInt8) × Service :=
  s.onMachine fun machine s ↦ (.ok machine.program.bytes, s)

/-! ### Keys -/

/-- The labels under which keys are known: those of the configuration, or the usual ones if it has
none. -/
def keyMap (s : Service) : KeyMap :=
  if s.config.keyMap.isEmpty then KeyMap.ofNumbers KeyMap.standard else s.config.resolutionMap

/-- Changes the keypad by the key that a value names. -/
def onKey (s : Service) (key : Json) (change : Keypad → Key → Keypad) :
    Except ServiceError Key × Service :=
  match Key.resolve s.keyMap key with
  | .error cause => (.error (.key cause), s)
  | .ok key =>
    s.onMachine fun machine s ↦
      (.ok key, { s with machine := some { machine with keypad := change machine.keypad key } })

/-- Presses the key that a value names. -/
def pressKey (s : Service) (key : Json) : Except ServiceError Key × Service :=
  s.onKey key Keypad.press

/-- Releases the key that a value names. -/
def releaseKey (s : Service) (key : Json) : Except ServiceError Key × Service :=
  s.onKey key Keypad.release

/-! ### The screen -/

/-- The picture of the screen. -/
def picture (s : Service) (zoom : Quantity) : Except ServiceError Image × Service :=
  s.onMachine fun machine s ↦ ((machine.screen.image zoom).mapError .image, s)

end Service

end Cosmac
