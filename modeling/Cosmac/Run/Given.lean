/-!
# What is given

Requests come from outside, and what they give for one of their parts may be of no use. That is no
error before the part is needed.
-/

set_option autoImplicit false

namespace Cosmac

/-- What is given for a part of a request. -/
inductive Given (α : Type) where
  /-- Something that is of no use. -/
  | misfit
  /-- A value. -/
  | value (value : α)
  deriving DecidableEq, Repr

namespace Given

/-- A value, if it is one. -/
def ofOption {α : Type} : Option α → Given α
  | some v => value v
  | none => misfit

/-- The value that is given, or else an error. -/
def get {α ε : Type} (error : ε) : Given α → Except ε α
  | value v => .ok v
  | misfit => .error error

/-- A function of what is given. -/
def map {α β : Type} (f : α → β) : Given α → Given β
  | value v => value (f v)
  | misfit => misfit

end Given

end Cosmac
