import Cosmac.Bench.Answer
import Cosmac.Keypad.Name
import Cosmac.Machine.Document

/-!
# Keys on the bench

Operations on a keypad, and the resolution of key names in whatever is given as the map.
-/

set_option autoImplicit false

namespace Cosmac.Bench

/-! ### Names -/

/-- Whether some symbols stand somewhere among others. -/
def occursIn (part : List Text.Symbol) : List Text.Symbol → Bool
  | [] => part.isEmpty
  | symbol :: rest => part.isPrefixOf (symbol :: rest) || occursIn part rest

/-- Whether a name is found in something that is no object. What is found there is no key. -/
def isFoundIn (name : String) : Json → Except ArgumentError Bool
  | .list items => .ok (items.contains (.text name))
  | .text content => .ok (occursIn (Text.symbols name.toList) (Text.symbols content.toList))
  | .object fields => .ok (fields.any fun field ↦ field.1 = name)
  | value => .error (.wrongKind value)

/-- The key that a value names in whatever is given as the map. -/
def resolve (map key : Json) : Except BenchError Key := do
  match map, key.text? with
  | .null, _ => Key.resolve (KeyMap.ofNumbers KeyMap.standard) key
  | .object fields, _ => Key.resolve fields key
  | _, none => Key.resolve [] key
  | other, some given =>
    let name := Text.trim given
    if (Key.logicalDigits? name.toList).isNone then
      if ← isFoundIn (Text.lowerCase name) other then throw (.argument (.wrongKind other))
      if ← isFoundIn name other then throw (.argument (.wrongKind other))
    Key.resolve [] key

/-! ### Keypads -/

/-- An operation on a keypad, which is given a key if it takes one. -/
def operateKeypad (pad : Keypad) (name : String) (key : Option Json) : Answer × Keypad :=
  settle pad do
    match name, key with
    | "press", some key => return (.ok .null, pad.press (← Key.ofJson key))
    | "release", some key => return (.ok .null, pad.release (← Key.ofJson key))
    | "is_pressed", some key => return (.ok (.bool (pad.isPressed (← Key.ofJson key))), pad)
    | "release_all", none => return (.ok .null, pad.releaseAll)
    | "reset", none => return (.ok .null, .idle)
    | "any_pressed", none => return (.ok (.bool pad.anyPressed), pad)
    | "last_pressed", none => return (.ok (.ofKey? pad.last), pad)
    | "pressed_keys", none => return (.ok (.ofKeys pad.pressedKeys), pad)
    | _, _ => throw .surplus

/-- The operation on a keypad that a document asks for. -/
def performKeypad (pad : Keypad) (operation : Json) : Answer × Keypad :=
  operateKeypad pad (nameOf operation) (operation.field? "key")

end Cosmac.Bench
