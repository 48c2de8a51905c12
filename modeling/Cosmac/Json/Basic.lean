/-!
# JSON values

The values that configuration files, request bodies and key arguments are made of. Whole numbers
and doubles are told apart, and an object keeps its fields in order with one value per name.
-/

set_option autoImplicit false

namespace Cosmac

/-- A JSON value. Whole numbers are unbounded; a number written with a point or an exponent is a
double. -/
inductive Json where
  | null
  | bool (value : Bool)
  | int (value : Int)
  | float (value : Float)
  | text (value : String)
  | list (items : List Json)
  | object (fields : List (String × Json))
  deriving Inhabited, BEq, Repr

/-! ### Fields -/

/-- The value stored under a name in a list of named values. -/
def lookupField? {α : Type} (name : String) (fields : List (String × α)) : Option α :=
  (fields.find? fun field ↦ field.1 == name).map Prod.snd

/-- Stores a value under a name. A name that is already there keeps its place. -/
def insertField {α : Type} (name : String) (value : α) : List (String × α) → List (String × α)
  | [] => [(name, value)]
  | field :: rest =>
    if field.1 = name then (name, value) :: rest else field :: insertField name value rest

/-- The list of named values in which a later value for a name replaces an earlier one. -/
def fieldsOf {α : Type} (entries : List (String × α)) : List (String × α) :=
  entries.foldl (fun fields entry ↦ insertField entry.1 entry.2 fields) []

namespace Json

/-- The value of a field of an object, if this is an object that has it. -/
def field? (name : String) : Json → Option Json
  | object fields => lookupField? name fields
  | _ => none

/-- A value with another one in a field, if it is an object that has the field. -/
def mapField (name : String) (change : Json → Json) : Json → Json
  | object fields =>
    object (fields.map fun field ↦ if field.1 = name then (field.1, change field.2) else field)
  | value => value

/-- Whether a value counts as true: everything but null, false, zero, and what is empty. -/
def isTruthy : Json → Bool
  | null => false
  | bool value => value
  | int value => value != 0
  | float value => value != 0.0
  | text value => !value.isEmpty
  | list items => !items.isEmpty
  | object fields => !fields.isEmpty

/-! ### Doubles -/

mutual

/-- A value with another one in place of each double in it. -/
def mapFloats (replace : Float → Json) : Json → Json
  | float value => replace value
  | list items => list (mapItems replace items)
  | object fields => object (mapFields replace fields)
  | value => value

/-- Items with other values in place of the doubles in them. -/
def mapItems (replace : Float → Json) : List Json → List Json
  | [] => []
  | item :: rest => mapFloats replace item :: mapItems replace rest

/-- Fields with other values in place of the doubles in them. -/
def mapFields (replace : Float → Json) : List (String × Json) → List (String × Json)
  | [] => []
  | (name, value) :: rest => (name, mapFloats replace value) :: mapFields replace rest

end

end Json

end Cosmac
