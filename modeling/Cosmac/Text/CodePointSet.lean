/-!
# Sets of code points

Character classes of the Unicode standard are given as tables of closed intervals. The main
definition is `CodePointSet.contains`, membership of a character in such a table.
-/

set_option autoImplicit false

namespace Cosmac.Text

/-- A set of code points, listed as closed intervals in ascending order. -/
abbrev CodePointSet := Array (Nat × Nat)

/-- Whether the character's code point lies in one of the intervals. -/
def CodePointSet.contains (set : CodePointSet) (c : Char) : Bool :=
  set.any fun interval ↦ interval.1 ≤ c.toNat && c.toNat ≤ interval.2

end Cosmac.Text
