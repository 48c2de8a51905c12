import Cosmac.Number.Quantity

/-!
# Agreement of values

Two values agree if they stand for the same thing: numbers of any form by what they are worth, lists
item by item, and objects name by name in any order.
-/

set_option autoImplicit false

namespace Cosmac

/-- Whether two quantities are worth the same. -/
def Quantity.agrees (a b : Quantity) : Bool :=
  match a.integer?, b.integer?, a, b with
  | some m, some n, _, _ => m = n
  | some m, none, _, real y => !wholeLess m y && !lessWhole y m && !y.isNaN
  | none, some n, real x, _ => !lessWhole x n && !wholeLess n x && !x.isNaN
  | none, none, real x, real y => x == y
  | _, _, _, _ => false

namespace Json

mutual

/-- Whether two values agree. -/
def agrees : Json → Json → Bool
  | list xs, list ys => itemsAgree xs ys
  | object xs, object ys => xs.length = ys.length && fieldsAgree xs ys
  | text x, text y => x = y
  | null, null => true
  | a, b =>
    match Quantity.ofJson? a, Quantity.ofJson? b with
    | some x, some y => x.agrees y
    | _, _ => false

/-- Whether two lists agree item by item. -/
def itemsAgree : List Json → List Json → Bool
  | [], [] => true
  | x :: xs, y :: ys => agrees x y && itemsAgree xs ys
  | _, _ => false

/-- Whether each of some fields has a field of the same name to agree with. -/
def fieldsAgree : List (String × Json) → List (String × Json) → Bool
  | [], _ => true
  | (name, x) :: xs, ys =>
    (match lookupField? name ys with
      | some y => agrees x y
      | none => false) && fieldsAgree xs ys

end

end Json

end Cosmac
