import Cosmac.Json.Basic
import Cosmac.Number.Shortest
import Cosmac.Text.Symbol

/-!
# Writing JSON

Documents are written in ASCII, either on one line or with one item per line and two blanks of
indentation per level.
-/

set_option autoImplicit false

namespace Cosmac.Json

/-! ### Texts -/

/-- A code unit as an escape of four lower-case hexadecimal digits. -/
def unitEscape (unit : Nat) : List Char :=
  '\\' :: 'u' :: (Numeral.padStart 4 0 (Numeral.digits 16 unit)).map Numeral.digitCharLower

/-- The code units of a code point. One beyond the first plane becomes a pair. -/
def codeUnits (point : Nat) : List Nat :=
  if point < 0x10000 then [point]
  else [0xD800 + (point - 0x10000) / 0x400, 0xDC00 + (point - 0x10000) % 0x400]

/-- A character between the quotes of a text. -/
def escapedChar (c : Char) : List Char :=
  if c = '"' then ['\\', '"']
  else if c = '\\' then ['\\', '\\']
  else if c = '\n' then ['\\', 'n']
  else if c = '\r' then ['\\', 'r']
  else if c = '\t' then ['\\', 't']
  else if c = '\x0c' then ['\\', 'f']
  else if c = '\x08' then ['\\', 'b']
  else if ' ' ≤ c ∧ c ≤ '~' then [c]
  else (codeUnits c.toNat).flatMap unitEscape

/-- A symbol between the quotes of a text. -/
def escapedSymbol : Text.Symbol → List Char
  | .char c => escapedChar c
  | .surrogate unit => unitEscape unit

/-- A text with its quotes. -/
def escapedText (value : String) : List Char :=
  '"' :: (Text.symbols value.toList).flatMap escapedSymbol ++ ['"']

/-! ### Layout -/

/-- A line break and the indentation of a level, or nothing where documents are on one line. -/
def lineBreak : Option Nat → List Char
  | some level => '\n' :: List.replicate (2 * level) ' '
  | none => []

/-- What separates two items: a comma, and a blank where documents are on one line. -/
def separator (level : Option Nat) : List Char :=
  match level with
  | some _ => ',' :: lineBreak level
  | none => [',', ' ']

/-- Items between brackets, each on its own line where a level is given. -/
def bracketed (opening closing : Char) (level : Option Nat) (items : List (List Char)) :
    List Char :=
  if items.isEmpty then [opening, closing]
  else
    let inner := level.map (· + 1)
    opening :: lineBreak inner ++ (separator inner).intercalate items
      ++ lineBreak level ++ [closing]

mutual

/-- A value at a level of indentation. -/
def writeAt (level : Option Nat) : Json → List Char
  | null => "null".toList
  | bool true => "true".toList
  | bool false => "false".toList
  | int value => Numeral.decimalChars value
  | float value =>
    if value.isNaN then "NaN".toList
    else if value.isInf then (if value < 0.0 then "-Infinity" else "Infinity").toList
    else (Binary64.display value).toList
  | text value => escapedText value
  | list items => bracketed '[' ']' level (writeItems (level.map (· + 1)) items)
  | object fields => bracketed '\x7b' '\x7d' level (writeFields (level.map (· + 1)) fields)

/-- The items of a list at a level of indentation. -/
def writeItems (level : Option Nat) : List Json → List (List Char)
  | [] => []
  | item :: rest => writeAt level item :: writeItems level rest

/-- The fields of an object at a level of indentation. -/
def writeFields (level : Option Nat) : List (String × Json) → List (List Char)
  | [] => []
  | (name, value) :: rest =>
    (escapedText name ++ ':' :: ' ' :: writeAt level value) :: writeFields level rest

end

/-- A document with one item per line. -/
def indented (value : Json) : String :=
  String.ofList (writeAt (some 0) value)

/-- A document on one line. -/
def oneLine (value : Json) : String :=
  String.ofList (writeAt none value)

/-! ### Sorted objects -/

mutual

/-- The value with the fields of every object sorted by name. -/
def sortFields : Json → Json
  | list items => list (sortItems items)
  | object fields => object ((sortEach fields).mergeSort fun a b ↦ Text.inOrder a.1 b.1)
  | value => value

/-- Sorts the fields inside every item. -/
def sortItems : List Json → List Json
  | [] => []
  | item :: rest => sortFields item :: sortItems rest

/-- Sorts the fields inside every named value. -/
def sortEach : List (String × Json) → List (String × Json)
  | [] => []
  | (name, value) :: rest => (name, sortFields value) :: sortEach rest

end

end Cosmac.Json
