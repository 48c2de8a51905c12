import Cosmac.Files

/-!
# Program images

A program is a sequence of bytes that fits into the memory above the reserved part.
`Program.ofBytes` accepts an image, and `ProgramError` tells why one is refused or could not be
read.
-/

set_option autoImplicit false

namespace Cosmac

/-- The size of the memory in bytes. -/
def memorySize : Nat := 4096

/-- Where programs are loaded; everything below is reserved. -/
def programStart : Nat := 0x200

/-- The size of the largest program. -/
def maxProgramSize : Nat := memorySize - programStart

/-- Why a program cannot be loaded. -/
inductive ProgramError where
  /-- The image does not fit into memory. -/
  | tooLarge (size : Nat)
  /-- The file cannot be read. -/
  | unreadable (path : Path) (cause : FileError)
  /-- The file is empty. -/
  | emptyFile (path : Path)
  /-- The file does not fit into memory. -/
  | fileTooLarge (path : Path) (size : Nat)
  deriving DecidableEq, Repr

namespace ProgramError

/-- The wording of a program error. -/
def message : ProgramError → String
  | tooLarge size =>
    "Program is " ++ Numeral.decimal size ++ " bytes; at most 3584 fit in memory"
  | unreadable path cause => "Cannot read program " ++ path.toText ++ ": " ++ cause.message
  | emptyFile path => "Program " ++ path.toText ++ " is empty"
  | fileTooLarge path size =>
    "Program " ++ path.toText ++ " is " ++ Numeral.decimal size ++ " bytes; at most 3584 fit"

/-- The file that the error is about, if it is about one. -/
def path? : ProgramError → Option Path
  | tooLarge _ => none
  | unreadable path _ | emptyFile path | fileTooLarge path _ => some path

end ProgramError

/-- A program image that fits into memory. -/
structure Program where
  /-- The bytes from the start of program memory on. -/
  bytes : Array UInt8
  /-- The image fits. -/
  fits : bytes.size ≤ maxProgramSize

namespace Program

/-- The empty image. -/
def empty : Program :=
  ⟨#[], by decide⟩

/-- The program with the given bytes, refused if it is too large. -/
def ofBytes (bytes : Array UInt8) : Except ProgramError Program :=
  if h : bytes.size ≤ maxProgramSize then .ok ⟨bytes, h⟩ else .error (.tooLarge bytes.size)

/-- The content of a program file. It must hold at least one byte and fit into memory. -/
def fileBytes (files : Files) (path : Path) : Except ProgramError (Array UInt8) :=
  match files.read path.toText with
  | .error cause => .error (.unreadable path cause)
  | .ok bytes =>
    if bytes.isEmpty then .error (.emptyFile path)
    else if maxProgramSize < bytes.size then .error (.fileTooLarge path bytes.size)
    else .ok bytes

end Program

end Cosmac
