import Cosmac.Number.Numeral
import Cosmac.Text.Printable
import Cosmac.Text.Symbol

/-!
# Quoted text

A text as it is shown inside a message: between quotes, with escapes for the quote, the backslash
and every character that cannot be shown.
-/

set_option autoImplicit false

namespace Cosmac.Text

/-- The quote for a text: the apostrophe, unless the text has apostrophes and no double quote. -/
def quoteFor (cs : List Char) : Char :=
  if cs.contains '\'' && !cs.contains '"' then '"' else '\''

/-- An escape by code point: a letter and as many lower-case hexadecimal digits as it demands. -/
def codePointEscape (codePoint : Nat) : List Char :=
  let digits (width : Nat) : List Char :=
    (Numeral.padStart width 0 (Numeral.digits 16 codePoint)).map Numeral.digitCharLower
  if codePoint < 0x100 then '\\' :: 'x' :: digits 2
  else if codePoint < 0x10000 then '\\' :: 'u' :: digits 4
  else '\\' :: 'U' :: digits 8

/-- A character as it is written between the given quotes. -/
def quotedChar (quote c : Char) : List Char :=
  if c = quote ∨ c = '\\' then ['\\', c]
  else if c = '\t' then ['\\', 't']
  else if c = '\n' then ['\\', 'n']
  else if c = '\r' then ['\\', 'r']
  else if isPrintable c then [c]
  else codePointEscape c.toNat

/-- A symbol as it is written between the given quotes. -/
def quotedSymbol (quote : Char) : Symbol → List Char
  | .char c => quotedChar quote c
  | .surrogate unit => codePointEscape unit

/-- A text between quotes. -/
def quotedChars (cs : List Char) : List Char :=
  let quote := quoteFor cs
  quote :: (symbols cs).flatMap (quotedSymbol quote) ++ [quote]

/-- A text between quotes. -/
def quoted (text : String) : String :=
  String.ofList (quotedChars text.toList)

/-- A text between quotes, of which no more than the given number of characters is shown. -/
def quotedUpTo (length : Nat) (text : String) : String :=
  String.ofList ((quotedChars text.toList).take length)

end Cosmac.Text
