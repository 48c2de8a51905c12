import Cosmac.Text.Utf8

/-!
# Encodings of documents

A document may come in code units of eight, sixteen or thirty-two bits, the larger ones with either
end first. `Encoding.detect` tells which it is from a byte order mark or from the zeros among the
first bytes, and `Encoding.decode?` reads the symbols. Surrogates without a partner are kept.
-/

set_option autoImplicit false

namespace Cosmac.Text

/-- Which byte of a code unit comes first. -/
inductive ByteOrder where
  | bigEndian
  | littleEndian
  deriving DecidableEq, Repr

/-- The number that the bytes of a code unit denote. -/
def ByteOrder.value (order : ByteOrder) (bytes : List UInt8) : Nat :=
  Numeral.ofDigits 256 ((match order with
    | .bigEndian => bytes
    | .littleEndian => bytes.reverse).map UInt8.toNat)

/-- The encodings. -/
inductive Encoding where
  | utf8
  | utf16 (order : ByteOrder)
  | utf32 (order : ByteOrder)
  deriving DecidableEq, Repr

namespace Encoding

/-- The encoding of a document without a byte order mark, whose first characters are ASCII. -/
def ofZeros : List UInt8 → Encoding
  | [0, _] => utf16 .bigEndian
  | [_, 0] => utf16 .littleEndian
  | 0 :: 0 :: _ :: _ :: _ => utf32 .bigEndian
  | 0 :: _ :: _ :: _ :: _ => utf16 .bigEndian
  | _ :: 0 :: 0 :: 0 :: _ => utf32 .littleEndian
  | _ :: 0 :: _ :: _ :: _ => utf16 .littleEndian
  | _ => utf8

/-- The encoding of a document and its bytes after the byte order mark. -/
def detect : List UInt8 → Encoding × List UInt8
  | 0x00 :: 0x00 :: 0xFE :: 0xFF :: rest => (utf32 .bigEndian, rest)
  | 0xFF :: 0xFE :: 0x00 :: 0x00 :: rest => (utf32 .littleEndian, rest)
  | 0xFE :: 0xFF :: rest => (utf16 .bigEndian, rest)
  | 0xFF :: 0xFE :: rest => (utf16 .littleEndian, rest)
  | 0xEF :: 0xBB :: 0xBF :: rest => (utf8, rest)
  | bytes => (ofZeros bytes, bytes)

/-- The code units of sixteen bits, if the bytes fill them. -/
def units16? (order : ByteOrder) : List UInt8 → Option (List Nat)
  | [] => some []
  | a :: b :: rest => do return order.value [a, b] :: (← units16? order rest)
  | _ => none

/-- The code units of thirty-two bits, if the bytes fill them. -/
def units32? (order : ByteOrder) : List UInt8 → Option (List Nat)
  | [] => some []
  | a :: b :: c :: d :: rest => do return order.value [a, b, c, d] :: (← units32? order rest)
  | _ => none

/-- The symbols of code units of sixteen bits. -/
def pairUp : List Nat → List Symbol
  | leading :: trailing :: rest =>
    if isLeading leading && isTrailing trailing then .ofPair leading trailing :: pairUp rest
    else .ofCodePoint leading :: pairUp (trailing :: rest)
  | [unit] => [.ofCodePoint unit]
  | [] => []

/-- The symbols that bytes stand for. -/
def decode? (bytes : List UInt8) : Encoding → Option (List Symbol)
  | utf8 => (decodeUtf8From true 0 bytes.length bytes).toOption
  | utf16 order => (units16? order bytes).map pairUp
  | utf32 order => do
    let units ← units32? order bytes
    if units.all (· < 0x110000) then return units.map .ofCodePoint else none

end Encoding

/-- The text of a document in any encoding. -/
def decodeDocument? (bytes : List UInt8) : Option (List Char) :=
  let (encoding, bytes) := Encoding.detect bytes
  (encoding.decode? bytes).map spelled

end Cosmac.Text
