/-!
# The call stack

Sixteen slots for return addresses, of which the first `depth` are in use. `entries` is the view of
a stack; a push writes one slot, and a pop leaves the slots as they are.
-/

set_option autoImplicit false

namespace Cosmac

/-- Return addresses. -/
structure CallStack where
  /-- The slots, used or not. -/
  slots : Vector UInt16 16
  /-- The number of slots in use. -/
  depth : Fin 17
  deriving DecidableEq, Repr

namespace CallStack

/-- The stack with no slot in use. -/
def empty : CallStack :=
  ⟨Vector.replicate 16 0, 0⟩

/-- The saved addresses, the oldest first. -/
def entries (s : CallStack) : List UInt16 :=
  s.slots.toList.take s.depth

/-- Saves an address, if a slot is free. -/
def push? (s : CallStack) (address : UInt16) : Option CallStack :=
  if h : s.depth.val < 16 then
    some ⟨s.slots.set s.depth address h, ⟨s.depth.val + 1, by omega⟩⟩
  else none

/-- Takes back the address saved last, if there is one. -/
def pop? (s : CallStack) : Option (UInt16 × CallStack) :=
  if h : 0 < s.depth.val then
    some (s.slots.get ⟨s.depth.val - 1, by have := s.depth.isLt; omega⟩,
      { s with depth := ⟨s.depth.val - 1, by have := s.depth.isLt; omega⟩ })
  else none

end CallStack

end Cosmac
