import Cosmac.Keypad.Name
import Cosmac.Number.Quantity

/-!
# Configurations

How a host paces and shows a machine, and which labels its keys have. `Config.build` checks the
fields; they keep the form in which they were given, apart from the key map, whose labels are put
into lower case and whose values become whole numbers.
-/

set_option autoImplicit false

namespace Cosmac

/-- Why a configuration is refused. -/
inductive ConfigError where
  /-- A rate is zero or negative. -/
  | notPositive (field : String) (value : Quantity)
  /-- The display zoom is less than one. -/
  | zoomTooSmall (value : Quantity)
  /-- A key value is not a numeral in the given base. -/
  | badNumeral (base : Nat) (text : String) (flaw : Numeral.Flaw)
  /-- A key value is not a number. -/
  | undefinedKey
  /-- A key value is infinite. -/
  | infiniteKey
  /-- A field holds no number where one is needed. -/
  | notANumber
  /-- There is no field of that name. -/
  | unknownField (name : String)
  /-- Something that must be an object is not one. -/
  | notAnObject

/-- The wording of an error about a value. Errors about the form of a document have no wording. -/
def ConfigError.message? : ConfigError → Option String
  | notPositive field value => some (field ++ " must be positive, got " ++ value.display)
  | zoomTooSmall value => some ("display_zoom must be at least 1, got " ++ value.display)
  | badNumeral base text .malformed =>
    some ("invalid literal for int() with base " ++ Numeral.decimal base ++ ": "
      ++ Text.quotedUpTo 200 text)
  | badNumeral _ _ (.tooManyDigits count) => some (Numeral.tooManyDigitsMessage count)
  | undefinedKey => some "cannot convert float NaN to integer"
  | infiniteKey | notANumber | unknownField _ | notAnObject => none

/-- How a host paces and shows a machine. -/
structure Config where
  /-- The name of the configuration. -/
  name : Json
  /-- How many instructions are executed per second. -/
  instructionsPerSecond : Quantity
  /-- How many timer ticks there are per second. -/
  timerRate : Quantity
  /-- How much the screen is enlarged in images. -/
  displayZoom : Quantity
  /-- The seed of the random bytes, or null. -/
  seed : Json
  /-- The labels of the host's keys and the keys that they stand for. -/
  keyMap : List (String × Int)

namespace Config

/-! ### Checks -/

/-- The whole number that a key value stands for. -/
def keyNumber : Json → Except ConfigError Int
  | .int value => .ok value
  | .bool value => .ok (if value then 1 else 0)
  | .float value =>
    match Binary64.truncate? value with
    | some number => .ok number
    | none => .error (if value.isNaN then .undefinedKey else .infiniteKey)
  | .text value =>
    (Numeral.read 10 value).mapError (.badNumeral 10 value)
  | .null | .list _ | .object _ => .error .notANumber

/-- A rate, which must be positive. -/
def positive (field : String) (value : Json) : Except ConfigError Quantity :=
  match Quantity.ofJson? value with
  | none => .error .notANumber
  | some rate => if rate.atMost 0 then .error (.notPositive field rate) else .ok rate

/-- A zoom, which must be at least one. -/
def zoomFactor (value : Json) : Except ConfigError Quantity :=
  match Quantity.ofJson? value with
  | none => .error .notANumber
  | some zoom => if zoom.lessThan 1 then .error (.zoomTooSmall zoom) else .ok zoom

/-- The key map of an object: labels in lower case, values as whole numbers. Of two labels that
become equal, the first gives the place and the second the value. -/
def keyEntries (fields : List (String × Json)) : Except ConfigError (List (String × Int)) := do
  let entries ← fields.mapM fun (name, value) ↦ do
    return (Text.lowerCase name, ← keyNumber value)
  return fieldsOf entries

/-- The configuration with the given fields. They are checked in the order in which they are
listed. -/
def build (name instructionsPerSecond timerRate displayZoom seed keyMap : Json) :
    Except ConfigError Config := do
  let instructionsPerSecond ← positive "instructions_per_second" instructionsPerSecond
  let timerRate ← positive "timer_hz" timerRate
  let displayZoom ← zoomFactor displayZoom
  match keyMap with
  | .object fields =>
    return ⟨name, instructionsPerSecond, timerRate, displayZoom, seed, ← keyEntries fields⟩
  | _ => .error .notAnObject

/-! ### Presets -/

/-- The configuration with a name and a rate of instructions, and otherwise the usual values. -/
def preset (name : String) (instructionsPerSecond : Int) : Config :=
  ⟨.text name, .whole instructionsPerSecond, .whole 60, .whole 8, .null, KeyMap.standard⟩

/-- The usual configuration. -/
def standard : Config :=
  preset "CHIP-8" 700

/-- The configuration of a profile; an unknown profile is the usual one. -/
def ofProfile (profile : String) : Config :=
  if profile = "fast" then preset "CHIP-8 (fast)" 2000
  else if profile = "vip" then preset "COSMAC VIP" 500
  else standard

/-! ### Pacing -/

/-- The number of instructions between two timer ticks: the nearest whole number, at least one. -/
def stepsPerTick (c : Config) : Except ArithmeticError Int :=
  (Quantity.roundedQuotient c.instructionsPerSecond c.timerRate).map (max 1 ·)

/-- The key map as the resolution of key names uses it. -/
def resolutionMap (c : Config) : KeyMap :=
  KeyMap.ofNumbers c.keyMap

end Config

end Cosmac
