import Cosmac.Number.Binary64
import Cosmac.Random.Digest
import Cosmac.Text.Utf8

/-!
# Seeds that are no integers

A generator starts from an integer. `Seed.ofFloat` and `Seed.ofText` are the integers that stand for
fractions and texts.
-/

set_option autoImplicit false

namespace Cosmac.Seed

/-- The prime modulo which a fraction is an integer: every power of two has an inverse. -/
def modulus : Nat := Nat.pow 2 61 - 1

/-- The residue of `mantissa * 2 ^ exponent`. Powers of two repeat after sixty-one. -/
def residue (v : Binary64.Exact) : Nat :=
  v.mantissa * Nat.pow 2 (v.exponent % 61).toNat % modulus

/-- The integer for a double: its residue, which is negated with it in 64 bits. Minus one is not in
use, and minus two stands in for it. Infinities have a number of their own. -/
def ofFloat (x : Float) : Nat :=
  let residue := ((Binary64.finite? x).map residue).getD 314159
  if 0.0 ≤ x then residue else Nat.pow 2 64 - max residue 2

/-- The integer for the bytes of a text: these and after them those of their digest, as one
number. -/
def ofBytes (bytes : List UInt8) : Nat :=
  Digest.numberOf (bytes ++ (Digest.ofBytes bytes).toBytes)

/-- The integer for a text that has bytes. -/
def ofText (text : String) : Except Text.SurrogateError Nat :=
  (Text.encodeUtf8? text).map fun bytes ↦ ofBytes bytes.toList

end Cosmac.Seed
