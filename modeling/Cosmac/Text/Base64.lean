/-!
# Base64

Bytes as text: three bytes become four characters of six bits each, and a last group of one or two
bytes is filled up with equals signs.
-/

set_option autoImplicit false

namespace Cosmac.Text

/-- The characters in the order of their values. -/
def base64Alphabet : Array Char :=
  "ABCDEFGHIJKLMNOPQRSTUVWXYZabcdefghijklmnopqrstuvwxyz0123456789+/".toList.toArray

/-- The character of the six bits of a number from a place on. -/
def base64Char (number place : Nat) : Char :=
  base64Alphabet.getD (number / Nat.pow 2 place % 64) '='

/-- The characters of bytes, with those of the bytes before them in front, last first. -/
def base64Onto (acc : List Char) : List UInt8 → List Char
  | a :: b :: c :: rest =>
    let group := a.toNat * 65536 + b.toNat * 256 + c.toNat
    base64Onto (base64Char group 0 :: base64Char group 6 :: base64Char group 12
      :: base64Char group 18 :: acc) rest
  | [a, b] =>
    let group := a.toNat * 65536 + b.toNat * 256
    '=' :: base64Char group 6 :: base64Char group 12 :: base64Char group 18 :: acc
  | [a] =>
    let group := a.toNat * 65536
    '=' :: '=' :: base64Char group 12 :: base64Char group 18 :: acc
  | [] => acc

/-- The text of bytes. -/
def base64 (bytes : List UInt8) : String :=
  String.ofList (base64Onto [] bytes).reverse

end Cosmac.Text
