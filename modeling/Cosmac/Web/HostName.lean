import Cosmac.Text.CaseFold
import Cosmac.Text.Direction
import Cosmac.Text.NormalForm
import Cosmac.Text.Punycode
import Cosmac.Text.Quoted

/-!
# Host names

A host has a name of labels with dots between them. Where names are looked up they have ASCII
characters only, so a label with others is prepared and then written in Punycode. `HostName.toAscii`
gives the name in that form, or tells why a name has none, and `HostName.ofAscii` reads it back.
-/

set_option autoImplicit false

namespace Cosmac.Web

/-- Why a name has no ASCII form. -/
inductive HostNameError where
  /-- A label is empty, or too long. -/
  | emptyOrTooLong
  /-- The last label is too long. -/
  | tooLong
  /-- A label has a symbol that no host name may have. -/
  | forbidden (symbol : Text.Symbol)
  /-- A label looks like one in Punycode. -/
  | reserved
  /-- A label has characters of both writing directions. -/
  | mixedDirections
  /-- A label is written from the right to the left, but one of its ends is not. -/
  | openEnd
  deriving DecidableEq, Repr

/-- What is wrong. -/
def HostNameError.description : HostNameError → String
  | emptyOrTooLong => "label empty or too long"
  | tooLong => "label too long"
  | forbidden symbol => "Invalid character " ++ String.ofList (Text.quotedChars symbol.spelling)
  | reserved => "Label starts with ACE prefix"
  | mixedDirections => "Violation of BIDI requirement 2"
  | openEnd => "Violation of BIDI requirement 3"

/-- The wording of an error. -/
def HostNameError.message (e : HostNameError) : String :=
  "encoding with 'idna' codec failed (UnicodeError: " ++ e.description ++ ")"

/-- Why a name in ASCII characters cannot be read. -/
inductive AsciiNameError where
  /-- A label stands for no text. -/
  | badPunycode (cause : Text.PunycodeError)
  /-- The text of a label has no ASCII form. -/
  | badText (cause : HostNameError)
  /-- The text of a label has another ASCII form. -/
  | otherForm (label form : List Char)
  deriving DecidableEq, Repr

/-- The wording of an error. -/
def AsciiNameError.message : AsciiNameError → String
  | badPunycode cause =>
    "decoding with 'idna' codec failed (UnicodeError: decoding with 'punycode' codec failed "
      ++ "(UnicodeError: " ++ cause.message ++ "))"
  | badText cause => "decoding with 'idna' codec failed (UnicodeError: " ++ cause.description ++ ")"
  | otherForm label form =>
    "('IDNA does not round-trip', b" ++ String.ofList (Text.quotedChars label) ++ ", b"
      ++ String.ofList (Text.quotedChars form) ++ ")"

namespace HostName

open Text (Symbol CodePointSet)

/-! ### Preparation -/

/-- Characters that make no difference in a name. -/
def ignored : CodePointSet :=
  #[(0xAD, 0xAD), (0x34F, 0x34F), (0x1806, 0x1806), (0x180B, 0x180D), (0x200B, 0x200D),
    (0x2060, 0x2060), (0xFE00, 0xFE0F), (0xFEFF, 0xFEFF)]

/-- Characters that no name may have: controls, marks of layout, private characters and code points
that are set aside for none. -/
def forbiddenChars : CodePointSet :=
  #[(0x80, 0x9F), (0x6DD, 0x6DD), (0x70F, 0x70F), (0x1680, 0x1680), (0x180E, 0x180E),
    (0x200E, 0x200F), (0x2028, 0x202E), (0x2061, 0x2063), (0x206A, 0x206F), (0x2FF0, 0x2FFB),
    (0xE000, 0xF8FF), (0xFDD0, 0xFDEF), (0xFFF9, 0xFFFF), (0x1D173, 0x1D17A), (0x1FFFE, 0x1FFFF),
    (0x2FFFE, 0x2FFFF), (0x3FFFE, 0x3FFFF), (0x4FFFE, 0x4FFFF), (0x5FFFE, 0x5FFFF),
    (0x6FFFE, 0x6FFFF), (0x7FFFE, 0x7FFFF), (0x8FFFE, 0x8FFFF), (0x9FFFE, 0x9FFFF),
    (0xAFFFE, 0xAFFFF), (0xBFFFE, 0xBFFFF), (0xCFFFE, 0xCFFFF), (0xDFFFE, 0xDFFFF),
    (0xE0001, 0xE0001), (0xE0020, 0xE007F), (0xEFFFE, 0x10FFFF)]

/-- Letters of which only the capitals are without case. -/
def halfFolded : CodePointSet :=
  #[(0x13A0, 0x13FD), (0x1C80, 0x1C88), (0xAB70, 0xABBF)]

/-- A character of a label without regard to case. -/
def foldedChar (c : Char) : List Char :=
  if halfFolded.contains c then [Text.lowerChar c] else Text.foldChar c

/-- A character of a label without regard to case, also where that shows in its normal form only. -/
def preparedChar (c : Char) : List Char :=
  if ignored.contains c then [] else (Text.normalForm (foldedChar c)).flatMap foldedChar

/-- A label without regard to case and to the form of its characters. -/
def prepared (label : List Symbol) : List Symbol :=
  Text.mapStretches (fun cs ↦ Text.normalForm (cs.flatMap preparedChar)) [] label

/-- Whether no name may have a symbol. -/
def isForbidden : Symbol → Bool
  | .char c => forbiddenChars.contains c
  | .surrogate _ => true

/-- Whether a symbol is in a set of characters. -/
def isIn (set : CodePointSet) : Symbol → Bool
  | .char c => set.contains c
  | .surrogate _ => false

/-- Refuses a prepared label that no name may have. -/
def check (label : List Symbol) : Except HostNameError Unit := do
  if let some symbol := label.find? isForbidden then throw (.forbidden symbol)
  if label.any (isIn Text.rightToLeft) then
    if label.any (isIn Text.leftToRight) then throw .mixedDirections
    let isRightToLeft (symbol? : Option Symbol) : Bool := symbol?.any (isIn Text.rightToLeft)
    if !isRightToLeft label.head? || !isRightToLeft label.getLast? then throw .openEnd

/-! ### ASCII forms -/

/-- The ASCII character that a symbol is. -/
def asciiChar? : Symbol → Option Char
  | .char c => if c.toNat < 0x80 then some c else none
  | .surrogate _ => none

/-- A label of ASCII characters, unless its length is wrong. -/
def bounded (label : List Char) : Except HostNameError (List Char) :=
  if 0 < label.length ∧ label.length < 64 then .ok label else .error .emptyOrTooLong

/-- The mark of a label in Punycode. -/
def announced : List Char :=
  "xn--".toList

/-- The ASCII form of a label. -/
def labelToAscii (label : List Symbol) : Except HostNameError (List Char) := do
  if let some cs := label.mapM asciiChar? then return ← bounded cs
  let label := prepared label
  check label
  if let some cs := label.mapM asciiChar? then return ← bounded cs
  let cs := Text.spelled label
  if announced.isPrefixOf cs then throw .reserved
  bounded (announced ++ Text.punycode cs)

/-- Refuses ASCII characters that are not labels with dots between them. The last label may be
empty. -/
def checkAscii (name : List Char) : Except HostNameError Unit := do
  let labels := name.splitOnP (· = '.')
  labels.dropLast.forM fun label ↦ discard (bounded label)
  if 64 ≤ (labels.getLastD []).length then throw .tooLong

/-- Whether a symbol stands between labels. -/
def isDot (symbol : Symbol) : Bool :=
  ['.', '。', '．', '｡'].any (symbol = .char ·)

/-- The ASCII form of a name. -/
def toAscii (name : List Symbol) : Except HostNameError (List Char) := do
  if let some cs := name.mapM asciiChar? then
    checkAscii cs
    return cs
  let labels := name.splitOnP isDot
  let isDotted := labels.getLast? = some []
  let labels ← (if isDotted then labels.dropLast else labels).mapM labelToAscii
  return ['.'].intercalate labels ++ if isDotted then ['.'] else []

/-! ### Reading -/

/-- The text of a label in ASCII characters. One in Punycode must be the form that its text has. -/
def labelOfAscii (label : List Char) : Except AsciiNameError (List Symbol) := do
  if !announced.isPrefixOf label then return label.map .char
  let text ← (Text.readPunycode (label.drop announced.length)).mapError .badPunycode
  let form ← (labelToAscii text).mapError .badText
  if label ≠ form then throw (.otherForm label form)
  return text

/-- The name that a name of ASCII characters in lower case stands for. -/
def ofAscii (name : List Char) : Except AsciiNameError (List Symbol) := do
  return [.char '.'].intercalate (← (name.splitOnP (· = '.')).mapM labelOfAscii)

end HostName

end Cosmac.Web
