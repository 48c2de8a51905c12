import Cosmac.Text.Blank
import Cosmac.Text.DecimalDigit

/-!
# Numerals

Integers as texts in a base. `digits` writes a natural number as a list of digit values and
`ofDigits` takes their value; `decimal` and `hexadecimal` print; `read` reads a numeral with sign,
base prefix, digit separators and surrounding white space, and tells why a text is none.
-/

set_option autoImplicit false

namespace Cosmac.Numeral

/-! ### Digits -/

/-- Puts the digits of `n` in front of `rest`, making at most `fuel` digits. -/
def digitsOnto (base : Nat) : Nat → Nat → List Nat → List Nat
  | 0, _, rest => rest
  | fuel + 1, n, rest =>
    if n < base then n :: rest else digitsOnto base fuel (n / base) (n % base :: rest)

/-- The digits of a natural number, most significant first; zero has the one digit `0`. A base of
two or more needs no more digits than there are binary ones. -/
def digits (base n : Nat) : List Nat :=
  digitsOnto base (n.log2 + 1) n []

/-- The number that a list of digits denotes, most significant first. -/
def ofDigits (base : Nat) (ds : List Nat) : Nat :=
  ds.foldl (fun value d ↦ value * base + d) 0

/-- The character of a digit value below sixteen, in upper case. -/
def digitChar (d : Nat) : Char :=
  if d < 10 then Char.ofNat ('0'.toNat + d) else Char.ofNat ('A'.toNat + (d - 10))

/-- The character of a digit value below sixteen, in lower case. -/
def digitCharLower (d : Nat) : Char :=
  if d < 10 then Char.ofNat ('0'.toNat + d) else Char.ofNat ('a'.toNat + (d - 10))

/-- Puts fillers in front of a list until it has the wanted length. -/
def padStart {α : Type} (width : Nat) (filler : α) (xs : List α) : List α :=
  List.replicate (width - xs.length) filler ++ xs

/-! ### Printing -/

/-- A natural number in decimal notation. -/
def decimalDigits (n : Nat) : List Char :=
  (digits 10 n).map digitChar

/-- An integer in decimal notation. -/
def decimalChars : Int → List Char
  | .ofNat n => decimalDigits n
  | .negSucc n => '-' :: decimalDigits (n + 1)

/-- An integer in decimal notation. -/
def decimal (n : Int) : String :=
  String.ofList (decimalChars n)

/-- A natural number in upper-case hexadecimal notation, padded with zeros to a width. -/
def hexDigits (width n : Nat) : List Char :=
  (padStart width 0 (digits 16 n)).map digitChar

/-- An integer in upper-case hexadecimal notation, padded with zeros to a width that counts the
sign. -/
def hexChars (width : Nat) : Int → List Char
  | .ofNat n => hexDigits width n
  | .negSucc n => '-' :: hexDigits (width - 1) (n + 1)

/-- An integer in upper-case hexadecimal notation, padded with zeros to a width. -/
def hexadecimal (width : Nat) (n : Int) : String :=
  String.ofList (hexChars width n)

/-- A byte as two lower-case hexadecimal digits. -/
def byteChars (b : UInt8) : List Char :=
  [digitCharLower (b.toNat / 16), digitCharLower (b.toNat % 16)]

/-! ### Reading -/

/-- The value of a digit character: a decimal digit of any script, or a Latin letter. -/
def digitValue? (c : Char) : Option Nat :=
  match Text.decimalDigit? c with
  | some d => some d
  | none =>
    if 'a' ≤ c ∧ c ≤ 'z' then some (c.toNat - 'a'.toNat + 10)
    else if 'A' ≤ c ∧ c ≤ 'Z' then some (c.toNat - 'A'.toNat + 10)
    else none

/-- The value of a digit character in a base. -/
def digitBelow? (base : Nat) (c : Char) : Option Nat :=
  (digitValue? c).filter (· < base)

/-- Takes away the prefix that base sixteen allows: a zero, an `x`, and one separator. -/
def dropBasePrefix (base : Nat) (cs : List Char) : List Char :=
  match base, cs with
  | 16, z :: x :: rest =>
    if Text.decimalDigit? z = some 0 ∧ (x = 'x' ∨ x = 'X') then
      match rest with
      | '_' :: digits => digits
      | digits => digits
    else cs
  | _, _ => cs

/-- White space around a numeral. Unlike elsewhere, the information separators do not count. -/
def isNumeralBlank (c : Char) : Bool :=
  Text.isBlank c && !('\x1c' ≤ c && c ≤ '\x1f')

/-- Whether every separator stands between two digits. `afterDigit` tells whether a digit stands
before the characters. -/
def isSeparated (afterDigit : Bool) : List Char → Bool
  | [] => afterDigit
  | '_' :: rest => afterDigit && isSeparated false rest
  | _ :: rest => isSeparated true rest

/-- The greatest number of digits that are converted between texts and integers in a base. Where
digits stand for whole bits there is none. -/
def digitLimit? (base : Nat) : Option Nat :=
  if Nat.pow 2 base.log2 = base then none else some 4300

/-- Why a text is not read as an integer. -/
inductive Flaw where
  /-- It is no numeral. -/
  | malformed
  /-- It has more digits than are converted. -/
  | tooManyDigits (count : Nat)
  deriving DecidableEq, Repr

/-- Reads one or more digits, with white space after them. -/
def readMagnitude (base : Nat) (cs : List Char) : Except Flaw Nat :=
  let run := cs.takeWhile fun c ↦ c = '_' || (digitBelow? base c).isSome
  let ds := run.filterMap (digitBelow? base)
  if !isSeparated false run then .error .malformed
  else if (digitLimit? base).any (· < ds.length) then .error (.tooManyDigits ds.length)
  else if (cs.drop run.length).all isNumeralBlank then .ok (ofDigits base ds)
  else .error .malformed

/-- Reads a signed numeral in a base: white space at the ends, an optional sign, in base sixteen an
optional prefix, and digits of any script with single separators between them. -/
def read (base : Nat) (text : String) : Except Flaw Int :=
  match text.toList.dropWhile isNumeralBlank with
  | '-' :: cs => (readMagnitude base (dropBasePrefix base cs)).map fun n ↦ -(n : Int)
  | '+' :: cs => (readMagnitude base (dropBasePrefix base cs)).map Int.ofNat
  | cs => (readMagnitude base (dropBasePrefix base cs)).map Int.ofNat

/-- The integer that a numeral denotes. -/
def read? (base : Nat) (text : String) : Option Int :=
  (read base text).toOption

/-- Whether an integer has no more decimal digits than are printed. -/
def isPrintable (n : Int) : Bool :=
  n.natAbs < Nat.pow 10 4300

/-- The wording where an integer has more decimal digits than are printed. -/
def unprintableMessage : String :=
  "Exceeds the limit (4300 digits) for integer string conversion; "
    ++ "use sys.set_int_max_str_digits() to increase the limit"

/-- The wording where a numeral has more decimal digits than are read. -/
def tooManyDigitsMessage (count : Nat) : String :=
  "Exceeds the limit (4300 digits) for integer string conversion: value has " ++ decimal count
    ++ " digits; use sys.set_int_max_str_digits() to increase the limit"

end Cosmac.Numeral
