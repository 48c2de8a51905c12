import Cosmac.Console.Command
import Cosmac.Framebuffer.Png

/-!
# The program

Runs a CHIP-8 program from the command line. Everything that the machine and its host do is decided
elsewhere; this module reads files and the clock, and writes what a command gives.
-/

set_option autoImplicit false

namespace Cosmac.Console

/-- The clock of the computer. -/
def clock : Timekeeper IO where
  now := return .real (Float.ofNat (← IO.monoNanosNow) / 1000000000.0)
  sleep duration := do
    match duration.toFloat with
    | .ok seconds => IO.sleep (seconds * 1000.0).toUInt32
    | .error _ => pure ()

/-- Adds what lies at a path of the computer, if anything does. -/
def addFile (files : Files) (text : String) : IO Files := do
  try
    let bytes ← IO.FS.readBinFile text
    return files.insert (.ofString text) (.file bytes.data)
  catch _ =>
    try
      let path ← IO.FS.realPath text
      if ← path.isDir then return files.insert (.ofString text) .directory
      return files
    catch _ => return files

/-- The files of the computer that a command line names. The file to be written counts as
writable. -/
def filesOf (line : CommandLine) : IO Files := do
  let here ← IO.currentDir
  let files := Files.empty (Path.ofString here.toString).parts
  let files ← addFile files line.program
  let files ← match line.options.config with
    | some path => addFile files path
    | none => pure files
  match line.options.savePath with
  | some (.value path) => return files.insert (.ofString path) (.file #[])
  | some .misfit | none => return files

/-- A seed that nobody chose. -/
def spareSeed : IO Int := do
  let bytes ← IO.getRandomBytes 8
  return Int.ofNat (bytes.data.foldl (fun value byte ↦ value * 256 + byte.toNat) 0)

/-- Writes what a command gives and returns its exit code. -/
def deliver (result : CommandResult) : IO UInt32 := do
  match result.saved with
  | some (path, image) => IO.FS.writeBinFile path.toText ⟨image.png.toArray⟩
  | none => pure ()
  IO.print (Text.toPlain result.printed)
  IO.eprint (Text.toPlain result.errors)
  return UInt32.ofNat result.exitCode

/-- Carries out a command line. -/
def carryOut (line : CommandLine) : IO UInt32 := do
  match ← Command.run (← filesOf line) clock (some (← spareSeed)) line with
  | .ok result => deliver result
  | .error cause =>
    IO.eprintln ("Error: " ++ cause.message)
    return 1

end Cosmac.Console

open Cosmac in
/-- Runs the program that the arguments name. -/
def main (arguments : List String) : IO UInt32 := do
  match CommandLine.ofArguments (arguments.map Text.ofPlain) with
  | .ok line => Console.carryOut line
  | .error .help =>
    IO.println CommandLine.usage
    return UInt32.ofNat (Refusal.exitCode .help)
  | .error (.misuse cause) =>
    IO.eprintln (CommandLine.usage ++ "\n" ++ cause.message)
    return UInt32.ofNat (Refusal.exitCode (.misuse cause))
