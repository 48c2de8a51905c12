import Cosmac.Framebuffer.Image
import Cosmac.Json.Agreement
import Cosmac.Json.Grid
import Cosmac.Keypad.Basic
import Cosmac.Machine.Listener
import Cosmac.Machine.Start
import Cosmac.Text.Hexadecimal
import Cosmac.Text.Template

/-!
# Answers of the bench

On the bench, parts of a machine are tried out by documents, each of which names an operation and
its arguments. An operation has an answer, which is a value or an error, and leaves the part in a
new state, also where it fails half-way.
-/

set_option autoImplicit false

namespace Cosmac

/-- Why an operation has no value. -/
inductive BenchError where
  /-- An argument is missing, or is of the wrong kind. -/
  | argument (cause : ArgumentError)
  /-- There is no operation of that name. -/
  | unknownOperation
  /-- There are no events of that kind. -/
  | unknownKind
  /-- The operation takes other arguments than those that are given. -/
  | surplus
  /-- A number cannot be computed with. -/
  | arithmetic (cause : ArithmeticError)
  /-- The rate of a clock is not positive. -/
  | badRate (rate : Quantity)
  /-- A text is no decimal numeral. -/
  | badNumeral (text : String) (flaw : Numeral.Flaw)
  /-- A text is no sequence of bytes. -/
  | badHex (cause : Text.HexError)
  /-- A number is no byte. -/
  | notAByte
  /-- A number of bytes is negative. -/
  | negativeCount
  /-- There is not enough memory for that many bytes. -/
  | outOfMemory
  /-- There is no such key. -/
  | key (cause : KeyError)
  /-- A place is not given in whole numbers. -/
  | fractionalPlace
  /-- A place is given by a text that cannot be filled with the length of a side. -/
  | template (cause : Text.TemplateError)
  /-- A side of a framebuffer, which is given by its text, is not positive. -/
  | notPositive (width height : String)
  /-- There is no framebuffer of that size. -/
  | size (cause : Framebuffer.SizeError)
  /-- A grid does not have two dimensions. -/
  | wrongDimensions (count : Nat)
  /-- A value is no grid. -/
  | grid (cause : GridError)
  /-- A grid of colours does not fill the dark pixels of a picture. -/
  | badDarkColor (sides : List Nat) (height width : Nat)
  /-- A grid of colours does not fill a number of lit pixels. -/
  | badLitColor (sides : List Nat) (count : Nat)
  /-- The picture cannot be made. -/
  | image (cause : ImageError)
  /-- The machine cannot be made. -/
  | start (cause : StartError)
  /-- The machine has faulted at a place, which is kept as it was given. -/
  | fault (cause : Fault) (place : Json)
  /-- An earlier fault has halted the machine. -/
  | halted (cause : Fault)
  /-- A script of random bytes is empty. -/
  | emptyScript
  /-- A listener failed, or cannot be taken away. -/
  | listener (cause : ListenerError)

namespace BenchError

/-- The wording of an error, where it has one. -/
def message? : BenchError → Option String
  | argument _ | unknownOperation | unknownKind | surplus => none
  | arithmetic cause => some cause.message
  | badRate rate => some ("Invalid timer rate: " ++ rate.display)
  | badNumeral text .malformed =>
    some ("invalid literal for int() with base 10: " ++ Text.quotedUpTo 200 text)
  | badNumeral _ (.tooManyDigits count) => some (Numeral.tooManyDigitsMessage count)
  | badHex cause =>
    some ("non-hexadecimal number found in fromhex() arg at position "
      ++ Numeral.decimal cause.position)
  | notAByte => some "bytes must be in range(0, 256)"
  | negativeCount => some "negative count"
  | outOfMemory => some ""
  | key cause => some cause.message
  | fractionalPlace =>
    some ("only integers, slices (`:`), ellipsis (`...`), numpy.newaxis (`None`) and "
      ++ "integer or boolean arrays are valid indices")
  | template cause => cause.message?
  | notPositive width height => some ("Invalid framebuffer size: " ++ width ++ "x" ++ height)
  | size cause => some cause.message
  | wrongDimensions count =>
    some (if 2 < count then "too many values to unpack (expected 2)"
      else "not enough values to unpack (expected 2, got " ++ Numeral.decimal count ++ ")")
  | grid cause => some cause.message
  | badDarkColor sides height width =>
    some ("could not broadcast input array from shape " ++ GridError.sidesText "," sides
      ++ " into shape " ++ GridError.sidesText "," [height, width, 3])
  | badLitColor sides count =>
    some ("shape mismatch: value array of shape " ++ GridError.sidesText "," sides
      ++ " could not be broadcast to indexing result of shape "
      ++ GridError.sidesText "," [count, 3])
  | image cause => some cause.message
  | start (.program cause) => some cause.message
  | start .unusableSeed => none
  | start (.unencodableSeed cause) => some cause.message
  | fault cause _ => some cause.message
  | halted cause => some (refusalMessage cause)
  | emptyScript => some "integer modulo by zero"
  | listener cause => some cause.message

end BenchError

namespace Bench

/-- An answer. -/
abbrev Answer := Except BenchError Json

instance : MonadLift (Except ArgumentError) (Except BenchError) :=
  ⟨Except.mapError .argument⟩

instance : MonadLift (Except ArithmeticError) (Except BenchError) :=
  ⟨Except.mapError .arithmetic⟩

instance : MonadLift (Except Text.HexError) (Except BenchError) :=
  ⟨Except.mapError .badHex⟩

instance : MonadLift (Except Text.TemplateError) (Except BenchError) :=
  ⟨Except.mapError .template⟩

instance : MonadLift (Except KeyError) (Except BenchError) :=
  ⟨Except.mapError .key⟩

instance : MonadLift (Except Framebuffer.SizeError) (Except BenchError) :=
  ⟨Except.mapError .size⟩

instance : MonadLift (Except GridError) (Except BenchError) :=
  ⟨Except.mapError .grid⟩

instance : MonadLift (Except ImageError) (Except BenchError) :=
  ⟨Except.mapError .image⟩

instance : MonadLift (Except StartError) (Except BenchError) :=
  ⟨Except.mapError .start⟩

instance : MonadLift (Except ListenerError) (Except BenchError) :=
  ⟨Except.mapError .listener⟩

/-- An answer and the state after it. What fails leaves the state as it was. -/
def settle {σ : Type} (state : σ) (result : Except BenchError (Answer × σ)) : Answer × σ :=
  match result with
  | .ok answer => answer
  | .error e => (.error e, state)

/-- Carries out operations in order and lists the answers, each with the state after it. -/
def performAll {σ : Type} (act : σ → Json → Answer × σ) (start : σ) (operations : List Json) :
    List (Answer × σ) :=
  (operations.foldl (fun (done, state) operation ↦
    let result := act state operation
    (result :: done, result.2)) ([], start)).1.reverse

/-! ### Arguments -/

/-- The name of the operation that a document asks for. -/
def nameOf (operation : Json) : String :=
  ((operation.field "op").text?).getD ""

/-- What is met in going through a value: the items of a list, the symbols of a text, the names of
an object. -/
def members (value : Json) : Except ArgumentError (List Json) :=
  match value with
  | .list items => .ok items
  | .text content =>
    .ok ((Text.symbols content.toList).map fun symbol ↦ .text (String.ofList symbol.spelling))
  | .object fields => .ok (fields.map fun field ↦ .text field.1)
  | _ => .error (.wrongKind value)

/-- The value of a name in a list of values with names. Numbers that are worth the same are one
name; lists and objects are none. -/
def lookup {α : Type} (name : Json) (entries : List (Json × α)) :
    Except ArgumentError (Option α) :=
  match name with
  | .list _ | .object _ => .error (.wrongKind name)
  | _ => .ok ((entries.find? fun entry ↦ entry.1.agrees name).map Prod.snd)

/-- The byte that is left of a whole number. -/
def byteOf (value : Json) : Except ArgumentError UInt8 := do
  return UInt8.ofInt (← value.whole)

/-- The bytes that a text spells in hexadecimal digits. -/
def hexBytes (value : Json) : Except BenchError (Array UInt8) := do
  match value.text? with
  | some text => Text.hexBytes text
  | none => throw (.argument (.wrongKind value))

/-- The bytes that a value makes: as many zeros as a number says, or the items of a list. -/
def rawBytes (value : Json) : Except BenchError (Array UInt8) := do
  match value.whole, value.text? with
  | _, some _ => throw (.argument (.wrongKind value))
  | .ok count, none =>
    if count < -Int.pow 2 63 ∨ Int.pow 2 63 - 33 ≤ count then throw (.arithmetic .overflow)
    if count < 0 then throw .negativeCount
    if Int.pow 2 40 ≤ count then throw .outOfMemory
    if maxProgramSize < count then throw (.start (.program (.tooLarge count.toNat)))
    return Array.replicate count.toNat 0
  | .error _, none =>
    let bytes ← (← members value).mapM fun member ↦ do
      let number ← member.whole
      if number < 0 ∨ 256 ≤ number then throw .notAByte
      return UInt8.ofInt number
    return bytes.toArray

end Bench

end Cosmac
