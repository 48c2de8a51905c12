import Cosmac.Json.Display
import Cosmac.Number.Binary64

/-!
# The keypad

Sixteen keys, one per hexadecimal digit, each held or not, and the key pressed last. `Key.ofJson`
turns a number or a numeral into a key.
-/

set_option autoImplicit false

namespace Cosmac

/-- A key of the hexadecimal keypad. -/
abbrev Key := Fin 16

/-! ### Key values -/

/-- Why something is not a key. -/
inductive KeyError where
  /-- It is not a number at all. -/
  | notANumber (value : Json)
  /-- It is a number outside the keypad. -/
  | outOfRange (value : Int)
  /-- It is a text that names no key. -/
  | unknownName (name : String)
  /-- It is infinite. -/
  | infinite
  /-- It is no key and holds an integer with too many digits to be shown. -/
  | unprintable

/-- The wording of a key error. -/
def KeyError.message : KeyError → String
  | notANumber value => "Invalid key: " ++ value.display
  | outOfRange value => "Key out of range: " ++ Numeral.decimal value
  | unknownName name => "Unknown key: " ++ Text.quoted name
  | infinite => "cannot convert float infinity to integer"
  | unprintable => Numeral.unprintableMessage

/-- Whether an error is about the key that a user asked for. The others are failures to deal with a
number. -/
def KeyError.isAboutKey : KeyError → Bool
  | notANumber _ | outOfRange _ | unknownName _ => true
  | infinite | unprintable => false

/-- The error that a value is no number, as far as the value can be shown. -/
def KeyError.ofValue (value : Json) : KeyError :=
  if value.isPrintable then .notANumber value else .unprintable

/-- The whole number that a value stands for: doubles lose their fraction, truth values count as
one and zero, and texts are read as decimal numerals. -/
def Json.wholeNumber : Json → Except KeyError Int
  | .int value => .ok value
  | .bool value => .ok (if value then 1 else 0)
  | .float value =>
    match Binary64.truncate? value with
    | some number => .ok number
    | none => .error (if value.isNaN then .notANumber (.float value) else .infinite)
  | .text value => (Numeral.read 10 value).mapError fun _ ↦ .notANumber (.text value)
  | value => .error (.ofValue value)

namespace Key

/-- The key with a given number. -/
def ofInt (value : Int) : Except KeyError Key :=
  if h : 0 ≤ value ∧ value < 16 then .ok ⟨value.toNat, by omega⟩
  else if Numeral.isPrintable value then .error (.outOfRange value)
  else .error .unprintable

/-- The key that a value stands for. -/
def ofJson (value : Json) : Except KeyError Key := do
  ofInt (← value.wholeNumber)

end Key

/-! ### Held keys -/

/-- Which keys are held, and which was pressed last. -/
structure Keypad where
  /-- Whether each key is held. -/
  held : Vector Bool 16
  /-- The key pressed last, held or not. -/
  last : Option Key
  deriving DecidableEq, Repr

namespace Keypad

/-- A keypad with no key held and none pressed so far. -/
def idle : Keypad :=
  ⟨Vector.replicate 16 false, none⟩

/-- Whether a key is held. -/
def isPressed (p : Keypad) (key : Key) : Bool :=
  p.held.get key

/-- Presses a key. -/
def press (p : Keypad) (key : Key) : Keypad :=
  ⟨p.held.set key true key.isLt, some key⟩

/-- Releases a key. -/
def release (p : Keypad) (key : Key) : Keypad :=
  { p with held := p.held.set key false key.isLt }

/-- Releases every key. The key pressed last stays known. -/
def releaseAll (p : Keypad) : Keypad :=
  { p with held := Vector.replicate 16 false }

/-- The held keys in ascending order. -/
def pressedKeys (p : Keypad) : List Key :=
  (List.finRange 16).filter p.isPressed

/-- Whether some key is held. -/
def anyPressed (p : Keypad) : Bool :=
  p.held.any id

/-- The key that a waiting program receives: the one pressed last if it is still held, otherwise
the lowest held key. -/
def delivered? (p : Keypad) : Option Key :=
  match p.last with
  | some key => if p.isPressed key then some key else p.pressedKeys.head?
  | none => p.pressedKeys.head?

end Keypad

end Cosmac
