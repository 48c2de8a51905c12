import Cosmac.Json.Argument

/-!
# Grids

Lists within lists are a grid if all lists of a depth are of one length. `Grid.ofJson` makes a grid
of a value or tells how far its lists agree, and `Grid.at?` is the item at a place. Where a grid is
to fill a larger one, its items are repeated along each side of length one (`Grid.fills`).
-/

set_option autoImplicit false

namespace Cosmac

/-- A grid of any number of dimensions, the items in order of their places. -/
structure Grid (α : Type) where
  /-- The lengths of the sides, the outermost first. -/
  sides : List Nat
  /-- The items. The last number of a place changes first. -/
  items : Array α

/-- Why a value is no grid. -/
inductive GridError where
  /-- Some lists are longer than others. The lists outside them have the given lengths. -/
  | ragged (sides : List Nat)
  /-- Lists lie deeper than is allowed. -/
  | tooDeep (limit : Nat)
  deriving DecidableEq, Repr

namespace GridError

/-- Lengths as they are shown. -/
def sidesText (separator : String) : List Nat → String
  | [side] => "(" ++ Numeral.decimal side ++ ",)"
  | sides => "(" ++ separator.intercalate (sides.map fun (n : Nat) ↦ Numeral.decimal n) ++ ")"

/-- The wording of an error. -/
def message : GridError → String
  | ragged sides =>
    "setting an array element with a sequence. The requested array has an inhomogeneous "
      ++ "shape after " ++ Numeral.decimal sides.length ++ " dimensions. The detected shape was "
      ++ sidesText ", " sides ++ " + inhomogeneous part."
  | tooDeep limit =>
    "setting an array element with a sequence. The requested array would exceed the maximum "
      ++ "number of dimension of " ++ Numeral.decimal limit ++ "."

end GridError

namespace Grid

/-! ### Lengths -/

/-- What is known of the sides of a grid while its value is gone through. -/
structure Survey where
  /-- The lengths so far, the outermost first. -/
  sides : List Nat
  /-- The depth at which items are expected. -/
  depth : Nat
  /-- Whether an item or an empty list has been met. -/
  isSettled : Bool
  /-- Whether something did not fit. -/
  isRagged : Bool

namespace Survey

/-- Meets an item. -/
def meetItem (survey : Survey) (depth : Nat) : Survey :=
  { survey with
    depth := depth
    isSettled := true
    isRagged := survey.isRagged || (survey.isSettled && survey.depth ≠ depth) }

/-- Meets a list of a length, and tells whether its items are to be met too. -/
def meetList (survey : Survey) (depth length : Nat) : Survey × Bool :=
  if survey.depth ≤ depth then ({ survey with isRagged := true }, false)
  else if survey.isSettled && survey.sides[depth]? ≠ some length then
    ({ survey with isRagged := true, depth := depth }, false)
  else
    let sides := if survey.isSettled then survey.sides else survey.sides ++ [length]
    if length = 0 then
      ({ survey with sides := sides, depth := depth + 1, isSettled := true }, false)
    else ({ survey with sides := sides }, true)

end Survey

mutual

/-- Goes through a value at a depth. -/
def surveyOf (survey : Survey) (depth : Nat) : Json → Survey
  | .list items =>
    match survey.meetList depth items.length with
    | (survey, true) => surveyOfItems survey (depth + 1) items
    | (survey, false) => survey
  | _ => survey.meetItem depth

/-- Goes through values at a depth. -/
def surveyOfItems (survey : Survey) (depth : Nat) : List Json → Survey
  | [] => survey
  | item :: rest => surveyOfItems (surveyOf survey depth item) depth rest

end

/-- The lengths of the sides of the grid that a value is, which has so many dimensions at most. -/
def sidesOf (limit : Nat) (value : Json) : Except GridError (List Nat) :=
  let survey := surveyOf ⟨[], limit, false, false⟩ 0 value
  if !survey.isRagged then .ok survey.sides
  else if survey.depth = limit then .error (.tooDeep limit)
  else .error (.ragged (survey.sides.take survey.depth))

/-! ### Items -/

mutual

/-- The values in a value that are no lists, in order. -/
def itemsOf : Json → List Json
  | .list items => itemsOfAll items
  | value => [value]

/-- The values in values that are no lists, in order. -/
def itemsOfAll : List Json → List Json
  | [] => []
  | item :: rest => itemsOf item ++ itemsOfAll rest

end

/-- The grid that a value is, which has so many dimensions at most. -/
def ofJson (limit : Nat) (value : Json) : Except GridError (Grid Json) := do
  return ⟨← sidesOf limit value, (itemsOf value).toArray⟩

/-- A grid with other items, where each of them can be made. -/
def mapM {ε α β : Type} (grid : Grid α) (make : α → Except ε β) : Except ε (Grid β) := do
  return ⟨grid.sides, ← grid.items.mapM make⟩

/-! ### Places -/

/-- Whether a grid can fill a larger one: each of its sides is as long as the other's or has length
one, counted from the last. Sides that the other grid does not have must have length one. -/
def fills {α : Type} (grid : Grid α) (sides : List Nat) : Bool :=
  let aligned := grid.sides.reverse.zip (sides.reverse ++ List.replicate grid.sides.length 1)
  aligned.all fun (own, other) ↦ own = 1 || own = other

/-- The number of the item at a place of a larger grid that is filled. -/
def indexAt {α : Type} (grid : Grid α) (place : List Nat) : Nat :=
  ((grid.sides.reverse.zip place.reverse).foldl (fun (index, stride) (side, number) ↦
    (if side = 1 then index else index + stride * number, stride * side)) (0, 1)).1

/-- The item at a place of a larger grid that is filled. -/
def at? {α : Type} (grid : Grid α) (place : List Nat) : Option α :=
  grid.items[grid.indexAt place]?

end Grid

end Cosmac
