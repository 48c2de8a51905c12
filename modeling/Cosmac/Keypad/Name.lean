import Cosmac.Keypad.Basic
import Cosmac.Text.LowerCase

/-!
# Key names

A host names keys by the labels of its own keyboard. `KeyMap` holds such labels, and `Key.resolve`
finds the key that a value names.
-/

set_option autoImplicit false

namespace Cosmac

/-- Labels of host keys with the values that they stand for, in order. -/
abbrev KeyMap := List (String × Json)

/-- The left block of a common keyboard laid over the keypad, row by row. -/
def KeyMap.standard : List (String × Int) :=
  [("1", 0x1), ("2", 0x2), ("3", 0x3), ("4", 0xC),
    ("q", 0x4), ("w", 0x5), ("e", 0x6), ("r", 0xD),
    ("a", 0x7), ("s", 0x8), ("d", 0x9), ("f", 0xE),
    ("z", 0xA), ("x", 0x0), ("c", 0xB), ("v", 0xF)]

/-- The map whose values are the given numbers. -/
def KeyMap.ofNumbers (entries : List (String × Int)) : KeyMap :=
  entries.map fun (name, value) ↦ (name, .int value)

namespace Key

/-- The characters after a marker that is written in lower case, if the text starts with it in
either case. -/
def afterMarker? : List Char → List Char → Option (List Char)
  | [], cs => some cs
  | m :: marker, c :: cs => if c.toLower = m then afterMarker? marker cs else none
  | _ :: _, [] => none

/-- The digits of a text that always names a key of the keypad: those after `0x` or `key_`. -/
def logicalDigits? (name : List Char) : Option (List Char) :=
  (afterMarker? "0x".toList name).or (afterMarker? "key_".toList name)

/-- The value that a map holds for a label: under its lower-case form, or else as it stands. -/
def mapped? (map : KeyMap) (name : String) : Option Json :=
  (lookupField? (Text.lowerCase name) map).or (lookupField? name map)

/-- The key whose number is written in hexadecimal digits. -/
def ofDigits? (digits : String) : Option Key :=
  (Numeral.read? 16 digits).bind fun number ↦ (ofInt number).toOption

/-- The key that a text names. Texts with a marker name a key of the keypad; others are looked up in
the map, and those it does not hold are read as hexadecimal digits. -/
def ofName (map : KeyMap) (given : String) : Except KeyError Key :=
  let read (digits : String) : Except KeyError Key :=
    match ofDigits? digits with
    | some key => .ok key
    | none => .error (.unknownName given)
  let name := Text.trim given
  match logicalDigits? name.toList with
  | some digits => read (String.ofList digits)
  | none =>
    match mapped? map name with
    | some value => ofJson value
    | none => read name

/-- The key that a value names: a whole number is the key's number and a text is one of its names.
Nothing else is a key. -/
def resolve (map : KeyMap) : Json → Except KeyError Key
  | .int number => ofInt number
  | .text name => ofName map name
  | value => .error (.ofValue value)

end Key

end Cosmac
