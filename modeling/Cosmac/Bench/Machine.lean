import Cosmac.Bench.Keypad
import Cosmac.Bench.Screen

/-!
# Machines on the bench

A machine with listeners that are known by name and records of it that can be compared. Its pointers
and its random bytes may be given as anything; what is no whole number is kept as it is until
something needs it.
-/

set_option autoImplicit false

namespace Cosmac

/-! ### Pointers -/

/-- The pointers of a machine as they were given, where that was not as whole numbers. -/
structure GivenPointers where
  /-- The program counter. -/
  pc : Option Json
  /-- The index. -/
  index : Option Json

/-- No pointers but those of the machine. -/
def GivenPointers.none : GivenPointers :=
  ⟨Option.none, Option.none⟩

/-- A record of a machine with the pointers as they were given. -/
structure BenchCapture where
  /-- The record. -/
  snapshot : Snapshot
  /-- The pointers. -/
  given : GivenPointers

namespace BenchCapture

/-- The program counter. -/
def pc (c : BenchCapture) : Json :=
  c.given.pc.getD (.int c.snapshot.pc)

/-- The index. -/
def index (c : BenchCapture) : Json :=
  c.given.index.getD (.int c.snapshot.index)

/-- The record as a document. -/
def document (c : BenchCapture) : Json :=
  c.snapshot.document.mapField "cpu" fun cpu ↦
    (cpu.mapField "pc" fun _ ↦ c.pc).mapField "index" fun _ ↦ c.index

/-- What differs between two pointers of a name. -/
def pointerChange (name : String) (before after : Json) : List Json :=
  if before.agrees after then [] else [.list [.text name, before, after]]

/-- What differs between two records, as a document. The pointers are compared as they were
given. -/
def difference (before after : BenchCapture) : Json :=
  let aligned := { before.snapshot with pc := after.snapshot.pc, index := after.snapshot.index }
  let d := aligned.difference after.snapshot
  let isRegister (change : Snapshot.Change) : Bool :=
    match change.field with
    | .register _ => true
    | _ => false
  let pointers := pointerChange "pc" before.pc after.pc
    ++ pointerChange "index" before.index after.index
  let cpu := (d.cpu.filter isRegister).map Snapshot.Change.document ++ pointers
    ++ (d.cpu.filter (!isRegister ·)).map Snapshot.Change.document
  (d.document.mapField "cpu" fun _ ↦ .list cpu).mapField "empty" fun _ ↦
    .bool (d.isEmpty && pointers.isEmpty)

end BenchCapture

/-! ### The bench -/

/-- A machine on the bench. -/
structure MachineBench where
  /-- The machine and its listeners. -/
  monitored : Monitored
  /-- All listeners that have been mentioned, by their names. -/
  listeners : List (Json × Listener)
  /-- The records by their names, the latest first. -/
  captures : List (Json × BenchCapture)
  /-- What the listeners have heard during the last operation, the latest first. -/
  heard : List Notice
  /-- The pointers as they were given. -/
  given : GivenPointers
  /-- The script of random bytes as it was given, if there is one. -/
  script : Array Json
  /-- Where the unknown words stood that the machine remembers, as that was given. -/
  diagnosticPlaces : List Json
  /-- Where the faulty instruction stood, as that was given. -/
  faultPlace : Json

namespace MachineBench

/-- A new machine on the bench, with its script of random bytes as it was given. -/
def ofMachine (machine : Machine) (script : Array Json) : MachineBench :=
  ⟨.ofMachine machine, [], [], [], .none, script, [], .null⟩

/-- The machine. -/
def machine (b : MachineBench) : Machine :=
  b.monitored.machine

/-- Replaces the machine. -/
def withMachine (b : MachineBench) (m : Machine) : MachineBench :=
  { b with monitored := { b.monitored with machine := m } }

/-- The program counter as it was given. -/
def pc (b : MachineBench) : Json :=
  b.given.pc.getD (.int b.machine.pc)

/-- The index as it was given. -/
def index (b : MachineBench) : Json :=
  b.given.index.getD (.int b.machine.index)

/-- A document about the processor with the pointers as they were given. -/
def asGiven (b : MachineBench) (document : Json) : Json :=
  (document.mapField "pc" fun _ ↦ b.pc).mapField "i" fun _ ↦ b.index

/-- The listener of a name, which is made at its first mention. The machine knows it by a number. -/
def listenerOf (b : MachineBench) (name : Json) (kind : EventKind) (once : Bool) :
    Except ArgumentError (Listener × MachineBench) := do
  match ← Bench.lookup name b.listeners with
  | some listener => return (listener, b)
  | none =>
    let listener : Listener := ⟨Numeral.decimal b.listeners.length, once, kind⟩
    return (listener, { b with listeners := (name, listener) :: b.listeners })

/-- The name of a listener as it was given. -/
def nameOf (b : MachineBench) (listener : Listener) : Json :=
  ((b.listeners.find? fun entry ↦ entry.2 = listener).map Prod.fst).getD .null

/-! ### Running -/

/-- What the script gives for the next random byte, if there is a script. -/
def nextDraw? (b : MachineBench) : Option Json :=
  match b.machine.source with
  | .script _ position => b.script[position % b.script.size]?
  | .generator _ => none

/-- Checks that a value of a script is a whole number. A text is filled with the number of bytes
that there are before it is refused. -/
def checkDrawn (value : Json) : Except BenchError Unit := do
  if let .text template := value then Text.Template.check template 256
  let _ ← value.whole

/-- Whether the machine has gone past a value of a script that is refused: a remainder could be
taken of it. -/
def isPassed : Json → Bool
  | .float _ => true
  | .text template => (Text.Template.check template 256).isOk
  | _ => false

/-- Whether the next step draws a random byte. -/
def draws (b : MachineBench) : Bool :=
  match Instruction.decode? b.machine.fetch with
  | some (.random _ _) => true
  | _ => false

/-- Whether the machine can take a step: what the step needs is there. -/
def checkStep (b : MachineBench) : Except BenchError Unit := do
  if b.machine.halted then return
  let _ ← b.pc.whole
  if b.draws then
    if b.machine.source.isEmptyScript then throw .emptyScript
    b.nextDraw?.forM checkDrawn
  else if (Instruction.decode? b.machine.fetch).any Instruction.usesIndex then
    let _ ← b.index.whole

/-- The machine after a step that it cannot take. -/
def afterRefusal (b : MachineBench) : MachineBench :=
  if !b.machine.halted && b.pc.whole.isOk && b.draws && b.nextDraw?.any isPassed then
    b.withMachine { b.machine with source := b.machine.source.draw.2 }
  else b

/-- Takes a step. -/
def step (b : MachineBench) : Except BenchError Word × MachineBench :=
  match b.checkStep with
  | .error e => (.error e, b.afterRefusal)
  | .ok () =>
    let place := b.pc
    let instruction := Instruction.decode? b.machine.fetch
    let (outcome, notices, monitored) := b.monitored.step
    let after := { b with monitored := monitored, heard := notices.reverse ++ b.heard }
    let places := keepLast diagnosticLimit (b.diagnosticPlaces ++ [place])
    match outcome with
    | .error cause => (.error (.listener cause), { after with diagnosticPlaces := places })
    | .ok (.faulted fault) => (.error (.fault fault place), { after with faultPlace := place })
    | .ok (.refused fault) => (.error (.halted fault), after)
    | .ok (.executed word diagnostic) =>
      let index := if instruction.any Instruction.setsIndex then none else b.given.index
      (.ok word, { after with
        given := ⟨none, index⟩
        diagnosticPlaces := if diagnostic.isSome then places else b.diagnosticPlaces })

/-- Takes a number of steps. The answer is how many were taken, unless one fails. -/
def run (b : MachineBench) (executed : Nat) : Nat → Bench.Answer × MachineBench
  | 0 => (.ok (.int executed), b)
  | count + 1 =>
    match b.step with
    | (.ok _, b) => b.run (executed + 1) count
    | (.error e, b) => (.error e, b)

/-- Counts the timers down a number of times. The answer tells each time whether the tone sounded;
`tones` holds the answers so far, the latest first. -/
def ticks (b : MachineBench) (tones : List Json) : Nat → Bench.Answer × MachineBench
  | 0 => (.ok (.list tones.reverse), b)
  | count + 1 =>
    let (tone, notices, monitored) := b.monitored.tick
    let b := { b with monitored := monitored, heard := notices.reverse ++ b.heard }
    match tone with
    | .ok tone => b.ticks (.bool tone :: tones) count
    | .error cause => (.error (.listener cause), b)

/-! ### Assignments -/

/-- Sets registers in order from a number on, as far as their values are numbers. -/
def setRegisters (m : Machine) (number : Nat) : List Json → Except ArgumentError Unit × Machine
  | [] => (.ok (), m)
  | value :: rest =>
    match Bench.byteOf value with
    | .ok byte => setRegisters (m.setRegister (Machine.registerOf number) byte) (number + 1) rest
    | .error e => (.error e, m)

/-- Points the machine to where a document says. -/
def point (b : MachineBench) (operation : Json) : MachineBench :=
  let m := b.machine
  let given (name : String) (old : Option Json) : Option Json :=
    match operation.field? name with
    | some (.int _) => none
    | some value => some value
    | none => old
  let number (name : String) (old : Int) : Int :=
    (operation.wholeFieldOr name old).toOption.getD old
  { b.withMachine { m with pc := number "pc" m.pc, index := number "i" m.index } with
    given := ⟨given "pc" b.given.pc, given "i" b.given.index⟩ }

/-- Sets the timers to what a document says. -/
def setTimers (b : MachineBench) (operation : Json) : Bench.Answer × MachineBench :=
  let set (b : MachineBench) (name : String) (change : Timers → UInt8 → Timers) :
      Except ArgumentError MachineBench := do
    let value ← Bench.byteOf (← operation.required name)
    return b.withMachine { b.machine with timers := change b.machine.timers value }
  match set b "delay" fun timers value ↦ { timers with delay := value } with
  | .error e => (.error (.argument e), b)
  | .ok b =>
    match set b "sound" fun timers value ↦ { timers with sound := value } with
    | .error e => (.error (.argument e), b)
    | .ok b => (.ok .null, b)

/-! ### Operations -/

/-- The diagnostics that the machine remembers. -/
def diagnosticsDocument (b : MachineBench) : Json :=
  .list ((b.machine.diagnostics.zip b.diagnosticPlaces).map fun (event, place) ↦
    .list [place, .int event.word.toNat, .text event.message])

/-- The record of a name. -/
def captureOf (b : MachineBench) (name : Json) : Except ArgumentError BenchCapture := do
  match ← Bench.lookup name b.captures with
  | some capture => return capture
  | none => throw (.missing name.plain)

/-- The kind of events that a document names. -/
def kindOf (operation : Json) : Except BenchError EventKind := do
  match ← operation.required "kind" with
  | .text "diagnostic" => return .diagnostic
  | .text "tone" => return .tone
  | _ => throw .unknownKind

/-- The operation on a machine that a document asks for. -/
def perform (b : MachineBench) (operation : Json) :
    Except BenchError (Bench.Answer × MachineBench) := do
  let m := b.machine
  let value (v : Json) : Bench.Answer × MachineBench := (.ok v, b)
  let become (m : Machine) : Bench.Answer × MachineBench := (.ok .null, b.withMachine m)
  let fresh (m : Machine) : Bench.Answer × MachineBench :=
    (.ok .null, { b.withMachine m with given := .none, diagnosticPlaces := [] })
  let onKeypad (name : String) (key : Option Json) : Bench.Answer × MachineBench :=
    let (answer, pad) := Bench.operateKeypad m.keypad name key
    (answer, b.withMachine { m with keypad := pad })
  let int (name : String) : Except BenchError Int := operation.wholeField name
  let byte (name : String) : Except BenchError UInt8 := do return UInt8.ofInt (← int name)
  let name := Bench.nameOf operation
  match name with
  | "step" =>
    let (word, b) := b.step
    return (word.map fun word ↦ Json.text word.mnemonic, b)
  | "run" => return b.run 0 (← int "n").toNat
  | "tick" => return b.ticks [] (← operation.wholeFieldOr "n" 1).toNat
  | "reset" => return fresh m.reset
  | "load" => return fresh (← (m.load (← Bench.hexBytes (← operation.required "hex"))).mapError
      fun cause ↦ BenchError.start (.program cause))
  | "load_zeros" => return fresh (← (m.load (← Bench.rawBytes (← operation.required "n"))).mapError
      fun cause ↦ BenchError.start (.program cause))
  | "press" | "release" => return onKeypad name (some (← operation.required "key"))
  | "release_all" => return onKeypad name none
  | "keypad_reset" => return onKeypad "reset" none
  | "read" => return value (.int (m.read (← int "addr")).toNat)
  | "write" => return become (m.write (← int "addr") (← byte "value"))
  | "block" =>
    let address ← operation.required "addr"
    let length := (← int "n").toNat
    if length = 0 then return value (.text "")
    return value (.text (Text.hexText (m.readBlock (← address.whole) length)))
  | "get_reg" => return value (.int (m.register (Machine.registerOf (← int "i"))).toNat)
  | "set_reg" => return become (m.setRegister (Machine.registerOf (← int "i")) (← byte "value"))
  | "set" =>
    let (result, m) := setRegisters m 0 (← Bench.members (operation.fieldOr "v" (.list [])))
    return Bench.settle (b.withMachine m) do
      result
      return (.ok .null, (b.withMachine m).point operation)
  | "set_timers" => return b.setTimers operation
  | "fetch" =>
    let _ ← b.pc.whole
    return value (.text m.fetch.mnemonic)
  | "program" => return value (.text (Text.hexText m.program.bytes.toList))
  | "cpu_state" => return value (b.asGiven m.processorDocument)
  | "diagnostics" => return value b.diagnosticsDocument
  | "listen" =>
    let kind ← kindOf operation
    let (listener, b) ← b.listenerOf (← operation.required "name") kind
      (operation.field "once").isTruthy
    return (.ok .null, { b with monitored := b.monitored.listen kind listener })
  | "unlisten" =>
    let kind ← kindOf operation
    let (listener, b) ← b.listenerOf (← operation.required "name") kind
      (operation.field "once").isTruthy
    return Bench.settle b do
      return (.ok .null, { b with monitored := ← b.monitored.unlisten kind listener })
  | "capture" =>
    let capture : BenchCapture := ⟨m.capture, b.given⟩
    let name ← operation.required "name"
    let _ ← Bench.lookup name b.captures
    let b := { b with captures := (name, capture) :: b.captures }
    return (.ok (if (operation.field "show").isTruthy then capture.document else .null), b)
  | "diff" =>
    match ← operation.required "before" with
    | .null =>
      let after ← b.captureOf (← operation.required "after")
      return value (Snapshot.differenceFrom none after.snapshot).document
    | before =>
      let before ← b.captureOf before
      return value (before.difference (← b.captureOf (← operation.required "after")))
  | "empty_diff" => return value Snapshot.Difference.none.document
  | "memory" => return value (.ofMemory m.memory.toList)
  | _ =>
    if !name.startsWith "fb_" then throw .unknownOperation
    let (answer, screen) := Bench.operateScreen m.screen (name.drop 3).toString operation
    return (answer, b.withMachine { m with screen := screen })

/-- Carries out the operation that a document asks for. -/
def act (b : MachineBench) (operation : Json) : Bench.Answer × MachineBench :=
  let b := { b with heard := [] }
  Bench.settle b (b.perform operation)

/-! ### Making -/

/-- The script of random bytes that a document gives, if it gives one. -/
def scriptOf? (document : Json) : Except BenchError (Option (List Json)) := do
  match document.field "rng" with
  | .null => return none
  | script => return some (← Bench.members script)

/-- The source of random bytes that a script is, or else that a seed gives. What is no number in a
script is never drawn. -/
def sourceOf (script : Option (List Json)) (seed : Json) : Except StartError ByteSource :=
  match script with
  | some values => .ok (.script
      (values.map fun value ↦ (Bench.byteOf value).toOption.getD 0).toArray 0)
  | none => ByteSource.ofSeed seed

/-- The machine that a document describes: the size of its screen, its program, and its random
bytes, for which the configuration may have a seed. -/
def ofDocument (config : Option Config) (document : Json) : Except BenchError MachineBench := do
  let screen ← Bench.framebufferOf document
  let bytes ← Bench.hexBytes (document.fieldOr "program" (.text ""))
  let keypad := if (document.field "inject").isTruthy then Keypad.idle.press ⟨5, by decide⟩ else .idle
  let script ← scriptOf? document
  let source ← sourceOf script ((config.map Config.seed).getD .null)
  return .ofMachine (← Machine.start bytes screen keypad source) (script.getD []).toArray

end MachineBench

end Cosmac
