import Cosmac.Number.Numeral

/-!
# Bytes in hexadecimal

Bytes are written down as hexadecimal digits, two for each. `hexText` writes them, and `hexBytes`
reads them, with blanks wherever a byte ends.
-/

set_option autoImplicit false

namespace Cosmac.Text

/-- The text of bytes, two lower-case digits for each. -/
def hexText (bytes : List UInt8) : String :=
  String.ofList (bytes.flatMap Numeral.byteChars)

/-- A place in a text where a digit is needed and none stands. -/
structure HexError where
  /-- The number of characters before that place. -/
  position : Nat
  deriving DecidableEq, Repr

/-- Whether a character may stand between two bytes. -/
def isHexBlank (c : Char) : Bool :=
  c = ' ' || ('\t' ≤ c && c ≤ '\r')

/-- The value of the digit at a position. -/
def hexDigit (position : Nat) (c : Char) : Except HexError Nat :=
  match Numeral.digitBelow? 16 c with
  | some value => .ok value
  | none => .error ⟨position⟩

/-- Reads the bytes of ASCII characters. -/
def readHex (position : Nat) : List Char → Except HexError (List UInt8)
  | [] => .ok []
  | [c] => do
    if isHexBlank c then return []
    let _ ← hexDigit position c
    throw ⟨position + 1⟩
  | a :: b :: rest =>
    if isHexBlank a then readHex (position + 1) (b :: rest)
    else do
      let high ← hexDigit position a
      let low ← hexDigit (position + 1) b
      return UInt8.ofNat (high * 16 + low) :: (← readHex (position + 2) rest)

/-- Reads the bytes of a text. A character beyond ASCII is refused before anything else. -/
def hexBytes (text : String) : Except HexError (Array UInt8) :=
  match text.toList.findIdx? fun c ↦ 0x80 ≤ c.toNat with
  | some position => .error ⟨position⟩
  | none => (readHex 0 text.toList).map List.toArray

end Cosmac.Text
