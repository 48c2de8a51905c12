import Cosmac.Config.Basic
import Cosmac.Framebuffer.Image
import Cosmac.Instruction.Listing
import Cosmac.Number.FixedPoint
import Cosmac.Run.Given
import Cosmac.Run.Paced

/-!
# Sessions

A session loads a program file, runs it, and reports: it saves the screen, prints it, and prints
statistics, as far as it is asked to. `Session.run` is the whole of it for any host clock.
-/

set_option autoImplicit false

namespace Cosmac

/-! ### Errors -/

/-- Why a session cannot be carried out. -/
inductive SessionError where
  /-- The program or the seed is refused. -/
  | start (cause : StartError)
  /-- A rate or a reading of the clock cannot be computed with. -/
  | arithmetic (cause : ArithmeticError)
  /-- The image cannot be made. -/
  | image (cause : ImageError)
  /-- The image cannot be written. -/
  | unwritable (cause : FileError)
  /-- What the session needs is of no use. -/
  | misfit

/-- The wording of an error, where it has one. -/
def SessionError.message? : SessionError → Option String
  | start (.program cause) => some cause.message
  | start .unusableSeed => none
  | start (.unencodableSeed cause) => some cause.message
  | arithmetic cause => some cause.message
  | image cause => some cause.message
  | unwritable cause => some cause.message
  | misfit => none

/-! ### Requests and results -/

/-- What a session is asked to do. -/
structure SessionRequest where
  /-- The program file. -/
  program : Path
  /-- The number of steps; none for a negative one. -/
  steps : Given Int
  /-- How the machine is paced and shown. -/
  config : Config
  /-- Whether to run as fast as possible. -/
  fast : Bool
  /-- Where to save the screen, if anywhere. -/
  savePath : Option (Given String)
  /-- How much to enlarge the saved screen, unless as the configuration says. -/
  zoom : Option (Given Quantity)
  /-- Whether to print statistics. -/
  printStatistics : Bool
  /-- Whether to print the screen. -/
  printScreen : Bool

/-- What a session has done. -/
structure SessionResult where
  /-- The run. -/
  run : Run
  /-- The time that it took. -/
  elapsed : Quantity
  /-- What was printed. -/
  printed : String
  /-- The image that was saved, and where. -/
  saved : Option (Path × Image)

namespace SessionResult

/-- Steps per unit of time, zero if no time has passed. -/
def stepRate (steps : Nat) (elapsed : Quantity) : Except ArithmeticError Float := do
  if elapsed.atMost 0 then return 0.0
  (← Quantity.divide (.whole steps) elapsed).toFloat

/-- The statistics of a run, a line each. -/
def statistics (r : Run) (elapsed : Quantity) : Except ArithmeticError (List String) := do
  let m := r.machine
  let seconds ← elapsed.toFloat
  let rate ← stepRate r.steps elapsed
  return ["Executed " ++ Numeral.decimal r.steps ++ " instructions in "
      ++ Binary64.fixedPoint 3 seconds ++ "s",
    "  speed: " ++ Binary64.groupedFixedPoint 0 rate ++ " instructions/s",
    "  timer ticks: " ++ Numeral.decimal r.timerTicks ++ " (tone on "
      ++ Numeral.decimal r.toneTicks ++ ")",
    "  unknown instructions: " ++ Numeral.decimal r.unknownWords,
    "  PC: 0x" ++ Numeral.hexadecimal 3 m.pc ++ "  I: 0x" ++ Numeral.hexadecimal 3 m.index
      ++ "  SP: " ++ Numeral.decimal m.stack.depth.val,
    "  V: " ++ " ".intercalate (m.registers.toList.map fun v ↦ Numeral.hexadecimal 2 v.toNat)]
  ++ (r.fault.map fun fault ↦ "  FAULT: " ++ fault.message).toList

end SessionResult

namespace Session

/-! ### Parts of a session -/

/-- The content of the program file, with what the journal says about it. -/
def loadProgram (files : Files) (path : Path) (journal : Journal) :
    Except ProgramError (Array UInt8 × Journal) := do
  let bytes ← Program.fileBytes files path
  let loaded := journal.record .info .loader
    ("Loaded " ++ path.toText ++ ": " ++ Numeral.decimal bytes.size ++ " bytes")
  return (bytes, (listing programStart bytes.toList).foldl
    (fun journal entry ↦ journal.record .debug .loader entry.line) loaded)

/-- The run of a freshly loaded program. -/
def begin (files : Files) (request : SessionRequest) (journal : Journal) :
    Except SessionError Run :=
  match loadProgram files request.program journal with
  | .error cause => .error (.start (.program cause))
  | .ok (bytes, journal) =>
    match Machine.ofConfig bytes request.config with
    | .error cause => .error (.start cause)
    | .ok machine =>
      .ok (Run.ofMachine machine (journal.record .debug .machine
        ("Machine reset with " ++ Numeral.decimal bytes.size ++ "-byte program")))

/-- The rates of a configuration in the form in which they are used: the clock of the timer ticks,
the time that a step takes, and the number of steps between two ticks. -/
def rates (config : Config) :
    Except ArithmeticError (TickClock Quantity × Quantity × Nat) := do
  let tickClock ← TickClock.ofRate (.real (← config.timerRate.toFloat))
  let stepPeriod := 1.0 / (← config.instructionsPerSecond.toFloat)
  return (tickClock, .real stepPeriod, (← config.stepsPerTick).toNat)

/-- The image to be saved, and where. -/
def savedImage (files : Files) (request : SessionRequest) (screen : Framebuffer) :
    Except SessionError (Option (Path × Image)) :=
  match request.savePath with
  | none => .ok none
  | some given => do
    let path := Path.ofString (← given.get .misfit)
    let zoom ← (request.zoom.getD (.value request.config.displayZoom)).get .misfit
    let image ← (screen.image zoom).mapError .image
    match files.checkWritable path.toText with
    | .error cause => .error (.unwritable cause)
    | .ok () => return some (path, image)

/-- What follows a run: the image is saved, then the screen and the statistics are printed. -/
def report (files : Files) (request : SessionRequest) (run : Run) (elapsed : Quantity) :
    Except SessionError SessionResult := do
  let saved ← savedImage files request run.machine.screen
  let run := match saved with
    | some (path, _) => run.record .info .runner ("Saved framebuffer to " ++ path.toText)
    | none => run
  let screenLines := if request.printScreen then [run.machine.screen.text "#" "."] else []
  let statisticsLines ←
    if request.printStatistics then
      (SessionResult.statistics run elapsed).mapError .arithmetic
    else pure []
  return ⟨run, elapsed, String.join ((screenLines ++ statisticsLines).map (· ++ "\n")), saved⟩

/-! ### The whole session -/

/-- Carries out a session on a host with the given files and clock. -/
def run {m : Type → Type} [Monad m] (files : Files) (time : Timekeeper m)
    (request : SessionRequest) (journal : Journal) : m (Except SessionError SessionResult) := do
  match begin files request journal, rates request.config with
  | .error error, _ => return .error error
  | .ok _, .error cause => return .error (.arithmetic cause)
  | .ok fresh, .ok (tickClock, stepPeriod, stepsPerTick) =>
    let start ← time.now
    match request.steps with
    | .misfit => return .error .misfit
    | .value steps =>
      let ended ←
        if request.fast then pure (.ok (fresh.fast stepsPerTick steps.toNat))
        else fresh.paced time ⟨tickClock.reset (some start), start, stepPeriod⟩ steps.toNat
      match ended with
      | .error cause => return .error (.arithmetic cause)
      | .ok run =>
        match ClockNumber.subtract (← time.now) start with
        | .error cause => return .error (.arithmetic cause)
        | .ok elapsed => return report files request run.conclude elapsed

end Session

end Cosmac
