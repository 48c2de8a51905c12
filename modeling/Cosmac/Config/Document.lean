import Cosmac.Config.Basic
import Cosmac.Json.Reader
import Cosmac.Json.Writer
import Cosmac.Files
import Cosmac.Text.Utf8

/-!
# Configuration documents

Configurations are stored as JSON objects. `Config.toDocument` and `Config.ofDocument` convert,
`Config.save` writes the text of a file and `Config.load` reads one.
-/

set_option autoImplicit false

namespace Cosmac

/-- Why a configuration file cannot be used. -/
inductive ConfigFileError where
  /-- The file cannot be read. -/
  | unreadable (cause : FileError)
  /-- The file is not valid text. -/
  | notText (cause : Text.Utf8Error)
  /-- The file is not a JSON document. -/
  | notJson (cause : Json.ParseError)
  /-- The document is not a configuration. -/
  | refused (cause : ConfigError)

/-- The wording of an error about a file, where it has one. -/
def ConfigFileError.message? : ConfigFileError → Option String
  | unreadable cause => some cause.message
  | notText cause => some cause.message
  | notJson cause => some cause.message
  | refused cause => cause.message?

namespace Config

/-! ### Objects -/

/-- The number of a key as documents write it. -/
def keyText (value : Int) : String :=
  "0x" ++ Numeral.hexadecimal 1 value

/-- The configuration as an object. -/
def toDocument (c : Config) : Json :=
  .object [("name", c.name),
    ("instructions_per_second", c.instructionsPerSecond.toJson),
    ("timer_hz", c.timerRate.toJson),
    ("display_zoom", c.displayZoom.toJson),
    ("rng_seed", c.seed),
    ("key_map", .object (c.keyMap.map fun (name, value) ↦ (name, .text (keyText value))))]

/-- The standard key map as an object of whole numbers. -/
def standardKeyMap : Json :=
  .object (KeyMap.ofNumbers KeyMap.standard)

/-- A key value of a document: texts are hexadecimal numerals. -/
def documentKeyValue : Json → Except ConfigError Json
  | .text numeral =>
    ((Numeral.read 16 numeral).map Json.int).mapError (.badNumeral 16 numeral)
  | value => .ok value

/-- The key map of a document; without one it is the standard key map. -/
def documentKeyMap : Json → Except ConfigError Json
  | .null => .ok standardKeyMap
  | .object fields => do
    return .object (← fields.mapM fun (name, value) ↦ do return (name, ← documentKeyValue value))
  | _ => .error .notAnObject

/-- The configuration that an object describes. Missing fields have their usual values and others
are ignored. -/
def ofDocument : Json → Except ConfigError Config
  | .object fields => do
    let field (name : String) (usual : Json) : Json := (lookupField? name fields).getD usual
    let keyMap ← documentKeyMap (field "key_map" .null)
    build (field "name" (.text "CHIP-8")) (field "instructions_per_second" (.int 700))
      (field "timer_hz" (.int 60)) (field "display_zoom" (.int 8)) (field "rng_seed" .null) keyMap
  | _ => .error .notAnObject

/-- The names of the fields of a configuration. -/
def fieldNames : List String :=
  ["name", "instructions_per_second", "timer_hz", "display_zoom", "rng_seed", "key_map"]

/-- The configuration whose fields are given one by one, the others having their usual values. Key
values are numbers or decimal numerals. -/
def ofFields (fields : List (String × Json)) : Except ConfigError Config :=
  match fields.find? fun field ↦ !fieldNames.contains field.1 with
  | some (name, _) => .error (.unknownField name)
  | none =>
    let field (name : String) (usual : Json) : Json := (lookupField? name fields).getD usual
    build (field "name" (.text "CHIP-8")) (field "instructions_per_second" (.int 700))
      (field "timer_hz" (.int 60)) (field "display_zoom" (.int 8)) (field "rng_seed" .null)
      (field "key_map" standardKeyMap)

/-! ### Files -/

/-- The text of a configuration file. -/
def save (c : Config) : String :=
  c.toDocument.indented

/-- Reads the characters of a configuration file. -/
def ofChars (limits : Json.Limits) (cs : List Char) : Except ConfigFileError Config :=
  match Json.parseWithin limits cs with
  | .error cause => .error (.notJson cause)
  | .ok document =>
    match ofDocument document with
    | .error cause => .error (.refused cause)
    | .ok config => .ok config

/-- Reads a configuration file on a host with the given limits. -/
def loadWithin (limits : Json.Limits) (files : Files) (path : String) :
    Except ConfigFileError Config :=
  match files.read path with
  | .error cause => .error (.unreadable cause)
  | .ok bytes =>
    match Text.decodeUtf8 bytes.toList with
    | .error cause => .error (.notText cause)
    | .ok cs => ofChars limits (Text.joinLines cs)

/-- Reads a configuration file, in which values may be nested as deeply as `nesting` says. -/
def load (nesting : Nat) (files : Files) (path : String) : Except ConfigFileError Config :=
  loadWithin (.ofNesting nesting) files path

end Config

end Cosmac
