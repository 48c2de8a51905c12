import Cosmac.Number.Quantity

/-!
# Arguments

A request is an object whose fields are the arguments of an operation. The functions here take
arguments out of it in the form that an operation needs, and `ArgumentError` says why one is not of
that form.
-/

set_option autoImplicit false

namespace Cosmac

/-- Why an argument cannot be used. -/
inductive ArgumentError where
  /-- There is no field of that name. -/
  | missing (name : String)
  /-- The value is of another kind than the operation needs. -/
  | wrongKind (value : Json)

namespace Json

/-! ### Kinds of values -/

/-- The text that a value is. -/
def text? : Json → Option String
  | text value => some value
  | _ => none

/-- The items of the list that a value is. -/
def items? : Json → Option (List Json)
  | list items => some items
  | _ => none

/-- The fields of the object that a value is. -/
def fields? : Json → Option (List (String × Json))
  | object fields => some fields
  | _ => none

/-- The whole number that a value is, where truth values count as one and zero. -/
def whole (value : Json) : Except ArgumentError Int :=
  match (Quantity.ofJson? value).bind Quantity.integer? with
  | some number => .ok number
  | none => .error (.wrongKind value)

/-- The quantity that a value is. -/
def quantity (value : Json) : Except ArgumentError Quantity :=
  match Quantity.ofJson? value with
  | some q => .ok q
  | none => .error (.wrongKind value)

/-- The items of a value, which must be a list. -/
def items (value : Json) : Except ArgumentError (List Json) :=
  match value.items? with
  | some members => .ok members
  | none => .error (.wrongKind value)

/-! ### Fields -/

/-- The value of a field, or another value without one. -/
def fieldOr (name : String) (value default : Json) : Json :=
  (value.field? name).getD default

/-- The value of a field, or null without one. -/
def field (name : String) (value : Json) : Json :=
  value.fieldOr name .null

/-- The value of a field that must be there. -/
def required (name : String) (value : Json) : Except ArgumentError Json :=
  match value.field? name with
  | some v => .ok v
  | none => .error (.missing name)

/-- The whole number in a field that must be there. -/
def wholeField (name : String) (value : Json) : Except ArgumentError Int := do
  (← value.required name).whole

/-- The whole number in a field, or another one without the field. -/
def wholeFieldOr (name : String) (default : Int) (value : Json) : Except ArgumentError Int :=
  (value.fieldOr name (.int default)).whole

/-- The text in a field that must be there. -/
def textField (name : String) (value : Json) : Except ArgumentError String := do
  let v ← value.required name
  match v.text? with
  | some content => return content
  | none => throw (.wrongKind v)

end Json

end Cosmac
