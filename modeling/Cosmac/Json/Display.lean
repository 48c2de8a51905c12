import Cosmac.Json.Basic
import Cosmac.Number.Shortest
import Cosmac.Text.Quoted

/-!
# Values in messages

`Json.display` shows a value inside a message, with texts between quotes. `Json.plain` shows a text
as itself. `Json.isPrintable` tells whether a value can be shown at all.
-/

set_option autoImplicit false

namespace Cosmac.Json

mutual

/-- A value as it is shown inside a message. -/
def displayChars : Json → List Char
  | null => "None".toList
  | bool true => "True".toList
  | bool false => "False".toList
  | int value => Numeral.decimalChars value
  | float value => (Binary64.display value).toList
  | text value => Text.quotedChars value.toList
  | list items => '[' :: [',', ' '].intercalate (displayItems items) ++ [']']
  | object fields => '\x7b' :: [',', ' '].intercalate (displayFields fields) ++ ['\x7d']

/-- The items of a list as they are shown inside a message. -/
def displayItems : List Json → List (List Char)
  | [] => []
  | item :: rest => displayChars item :: displayItems rest

/-- The fields of an object as they are shown inside a message. -/
def displayFields : List (String × Json) → List (List Char)
  | [] => []
  | (name, value) :: rest =>
    (Text.quotedChars name.toList ++ ':' :: ' ' :: displayChars value) :: displayFields rest

end

/-- A value as it is shown inside a message. -/
def display (value : Json) : String :=
  String.ofList (displayChars value)

/-- A value as it is shown where a text stands for itself. -/
def plain : Json → String
  | text value => value
  | value => value.display

mutual

/-- Whether a value can be shown: no integer in it has more decimal digits than are printed. -/
def isPrintable : Json → Bool
  | int value => Numeral.isPrintable value
  | list items => areItemsPrintable items
  | object fields => areFieldsPrintable fields
  | null | bool _ | float _ | text _ => true

/-- Whether the items of a list can be shown. -/
def areItemsPrintable : List Json → Bool
  | [] => true
  | item :: rest => isPrintable item && areItemsPrintable rest

/-- Whether the fields of an object can be shown. -/
def areFieldsPrintable : List (String × Json) → Bool
  | [] => true
  | (_, value) :: rest => isPrintable value && areFieldsPrintable rest

end

end Cosmac.Json
