import Cosmac.Text.Utf8

/-!
# Percent-encoding

Where a character would be taken for a mark its bytes are written as percent signs, each with two
hexadecimal digits. `percentEncoded` writes characters so, and `percentDecoded` gives the bytes that
they stand for.
-/

set_option autoImplicit false

namespace Cosmac.Web

/-! ### Parts -/

/-- Splits off the characters before the first separator, and those after it. -/
def splitFirst (separator : Char) (cs : List Char) : List Char × List Char :=
  (cs.takeWhile (· ≠ separator), (cs.dropWhile (· ≠ separator)).drop 1)

/-- The characters of a text whose symbols are characters. -/
def plainChars (cs : List Char) : List Char :=
  (Text.toPlain (String.ofList cs)).toList

/-! ### Reading -/

/-- The byte that two hexadecimal digits denote. -/
def hexByte? (high low : Char) : Option UInt8 :=
  let digit? (c : Char) : Option Nat :=
    if c.toNat < 0x80 then Numeral.digitBelow? 16 c else none
  match digit? high, digit? low with
  | some h, some l => some (UInt8.ofNat (h * 16 + l))
  | _, _ => none

/-- The bytes of percent-encoded characters. A percent sign that no two hexadecimal digits follow
stands for itself. -/
def percentDecoded : List Char → List UInt8
  | '%' :: high :: low :: rest =>
    match hexByte? high low with
    | some byte => byte :: percentDecoded rest
    | none => '%'.toUInt8 :: percentDecoded (high :: low :: rest)
  | c :: rest => String.utf8EncodeChar c ++ percentDecoded rest
  | [] => []

/-- The text of bytes, with replacements for what is no text. -/
def readableText (bytes : List UInt8) : List Char :=
  Text.decodeLossily (bytes.length + 1) bytes

/-! ### Writing -/

/-- The characters of a byte, which stays as it is if it is that of a letter, a digit or one of some
marks. -/
def percentEncodedByte (marks : List Char) (byte : UInt8) : List Char :=
  let c := Char.ofNat byte.toNat
  if c.isAlphanum || marks.contains c then [c]
  else '%' :: (Numeral.hexDigits 2 byte.toNat)

/-- Characters percent-encoded, apart from some marks. -/
def percentEncoded (marks cs : List Char) : Except Text.SurrogateError (List Char) := do
  let bytes ← Text.encodeUtf8? (String.ofList cs)
  return bytes.toList.flatMap (percentEncodedByte marks)

end Cosmac.Web
