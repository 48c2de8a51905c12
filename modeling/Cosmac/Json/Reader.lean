import Cosmac.Json.Basic
import Cosmac.Number.Binary64
import Cosmac.Number.Numeral
import Cosmac.Text.Symbol

/-!
# Reading JSON

`Json.parse` reads a document. Every reading function takes the characters still to be read and
returns a value with the characters after it, or a failure with the characters at which it arose,
from which the place in the document is computed. How large and how deep a document may be is a
setting of the host (`Json.Limits`).
-/

set_option autoImplicit false

namespace Cosmac.Json

/-! ### Limits -/

/-- What a host is willing to read. -/
structure Limits where
  /-- How deeply values may be nested. -/
  nesting : Nat
  /-- The greatest number of digits of an integer, if there is one. -/
  digits : Option Nat

/-- The usual limits where values may be nested as deeply as `nesting` says. -/
def Limits.ofNesting (nesting : Nat) : Limits :=
  ⟨nesting, Numeral.digitLimit? 10⟩

/-- The limits inside a value that holds others. -/
def Limits.inner (limits : Limits) : Limits :=
  { limits with nesting := limits.nesting - 1 }

/-! ### Failures -/

/-- The kinds of values that hold others. -/
inductive Container where
  | list
  | object
  deriving DecidableEq, Repr

/-- The name of a kind of values in messages. -/
def Container.name : Container → String
  | list => "array"
  | object => "object"

/-- What is wrong with a document. -/
inductive Flaw where
  | missingValue
  | missingName
  | missingColon
  | missingComma
  | unterminatedText
  | controlCharacter
  | unknownEscape
  | badCodePoint
  | trailingData
  | byteOrderMark
  /-- An integer has more digits than are read. -/
  | tooManyDigits (count : Nat)
  /-- A value of this kind stands inside too many others. -/
  | nestedTooDeeply (container : Container)
  deriving DecidableEq, Repr

/-- The wording of a flaw. -/
def Flaw.message : Flaw → String
  | missingValue => "Expecting value"
  | missingName => "Expecting property name enclosed in double quotes"
  | missingColon => "Expecting ':' delimiter"
  | missingComma => "Expecting ',' delimiter"
  | unterminatedText => "Unterminated string starting at"
  | controlCharacter => "Invalid control character at"
  | unknownEscape => "Invalid \\escape"
  | badCodePoint => "Invalid \\uXXXX escape"
  | trailingData => "Extra data"
  | byteOrderMark => "Unexpected UTF-8 BOM (decode using utf-8-sig)"
  | tooManyDigits count => Numeral.tooManyDigitsMessage count
  | nestedTooDeeply container =>
    "maximum recursion depth exceeded while decoding a JSON " ++ container.name
      ++ " from a unicode string"

/-- Whether a flaw is one of form, which has a place. Other documents exceed a limit. -/
def Flaw.isOfForm : Flaw → Bool
  | tooManyDigits _ | nestedTooDeeply _ => false
  | _ => true

/-- A failure to read: the flaw and the characters from the offending one on. -/
structure Failure where
  /-- What is wrong. -/
  flaw : Flaw
  /-- The rest of the document at the place of the flaw. -/
  rest : List Char

/-- The result of reading a part of a document: what was read and the rest. -/
abbrev Reading (α : Type) := Except Failure (α × List Char)

/-- A flaw and its place in a document. -/
structure ParseError where
  /-- What is wrong. -/
  flaw : Flaw
  /-- The characters before the flaw. -/
  before : List Char
  deriving DecidableEq, Repr

/-- The place of a flaw with its line and column, both counted from one, and the number of symbols
before it. -/
def ParseError.place (e : ParseError) : String :=
  let line := e.before.count '\n' + 1
  let column := (Text.symbols (e.before.reverse.takeWhile (· ≠ '\n')).reverse).length + 1
  "line " ++ Numeral.decimal line ++ " column " ++ Numeral.decimal column
    ++ " (char " ++ Numeral.decimal (Text.symbols e.before).length ++ ")"

/-- The wording of a flaw, with its place if it has one. -/
def ParseError.message (e : ParseError) : String :=
  if e.flaw.isOfForm then e.flaw.message ++ ": " ++ e.place else e.flaw.message

/-! ### White space and words -/

/-- The white space of JSON. -/
def isSpace (c : Char) : Bool :=
  c = ' ' || c = '\t' || c = '\n' || c = '\r'

/-- Skips white space. -/
def skipSpace (cs : List Char) : List Char :=
  cs.dropWhile isSpace

/-- The characters after a given word, if the text starts with it. -/
def afterWord? : List Char → List Char → Option (List Char)
  | [], cs => some cs
  | w :: word, c :: cs => if w = c then afterWord? word cs else none
  | _ :: _, [] => none

/-! ### Texts -/

/-- The value of four hexadecimal digits. -/
def fourDigits? (a b c d : Char) : Option Nat :=
  let digit? : Char → Option Nat := fun c ↦
    if c.toNat < 0x80 then Numeral.digitBelow? 16 c else none
  do return Numeral.ofDigits 16 [← digit? a, ← digit? b, ← digit? c, ← digit? d]

/-- The character that a letter names after a backslash. -/
def namedEscape? : Char → Option Char
  | '"' => some '"'
  | '\\' => some '\\'
  | '/' => some '/'
  | 'b' => some '\x08'
  | 'f' => some '\x0c'
  | 'n' => some '\n'
  | 'r' => some '\r'
  | 't' => some '\t'
  | _ => none

/-- Puts a symbol onto the characters read so far, last first. -/
def ontoText (acc : List Char) (symbol : Text.Symbol) : List Char :=
  symbol.spelling.reverse ++ acc

/-- Reads the rest of a text, up to its closing quote, onto the characters read so far, last first.
`start` is the text from its opening quote on. -/
def readText (start : List Char) (acc : List Char) : List Char → Reading String
  | '"' :: rest => .ok (String.ofList acc.reverse, rest)
  | '\\' :: 'u' :: a :: b :: c :: d :: '\\' :: 'u' :: e :: f :: g :: h :: next :: rest =>
    match fourDigits? a b c d with
    | none => .error ⟨.badCodePoint, 'u' :: a :: b :: c :: d :: '\\' :: 'u' :: e :: f :: g :: h
        :: next :: rest⟩
    | some unit =>
      if Text.isLeading unit then
        match fourDigits? e f g h with
        | none => .error ⟨.badCodePoint, 'u' :: e :: f :: g :: h :: next :: rest⟩
        | some other =>
          if Text.isTrailing other then
            readText start (ontoText acc (.ofPair unit other)) (next :: rest)
          else readText start (ontoText acc (.ofCodePoint unit))
            ('\\' :: 'u' :: e :: f :: g :: h :: next :: rest)
      else readText start (ontoText acc (.ofCodePoint unit))
        ('\\' :: 'u' :: e :: f :: g :: h :: next :: rest)
  | '\\' :: 'u' :: a :: b :: c :: d :: next :: rest =>
    match fourDigits? a b c d with
    | none => .error ⟨.badCodePoint, 'u' :: a :: b :: c :: d :: next :: rest⟩
    | some unit => readText start (ontoText acc (.ofCodePoint unit)) (next :: rest)
  | '\\' :: 'u' :: rest => .error ⟨.badCodePoint, 'u' :: rest⟩
  | '\\' :: c :: rest =>
    match namedEscape? c with
    | none => .error ⟨.unknownEscape, '\\' :: c :: rest⟩
    | some named => readText start (named :: acc) rest
  | ['\\'] => .error ⟨.unterminatedText, start⟩
  | c :: rest =>
    if c.toNat < 0x20 then .error ⟨.controlCharacter, c :: rest⟩
    else readText start (c :: acc) rest
  | [] => .error ⟨.unterminatedText, start⟩

/-! ### Numbers -/

/-- Whether a character is an ASCII digit. -/
def isDigit (c : Char) : Bool :=
  '0' ≤ c && c ≤ '9'

/-- The number that a list of ASCII digits denotes. -/
def digitsValue (ds : List Char) : Nat :=
  Numeral.ofDigits 10 (ds.map fun d ↦ d.toNat - '0'.toNat)

/-- Splits off the fraction of a number: the digits after a point, of which there is at least
one. -/
def splitFraction (cs : List Char) : List Char × List Char :=
  match cs with
  | '.' :: rest =>
    if rest.head?.any isDigit then (rest.takeWhile isDigit, rest.dropWhile isDigit) else ([], cs)
  | _ => ([], cs)

/-- Splits off the exponent of a number: the letter, an optional sign, and at least one digit. -/
def splitExponent (cs : List Char) : Option Int × List Char :=
  let digitsAfter (negative : Bool) (rest : List Char) : Option Int × List Char :=
    if rest.head?.any isDigit then
      let magnitude : Int := digitsValue (rest.takeWhile isDigit)
      (some (if negative then -magnitude else magnitude), rest.dropWhile isDigit)
    else (none, cs)
  match cs with
  | e :: rest =>
    if e = 'e' ∨ e = 'E' then
      match rest with
      | '-' :: digits => digitsAfter true digits
      | '+' :: digits => digitsAfter false digits
      | digits => digitsAfter false digits
    else (none, cs)
  | [] => (none, cs)

/-- The digits at the start of a number: a zero alone, or digits that do not start with one. -/
def wholeDigits (cs : List Char) : List Char :=
  match cs with
  | '0' :: _ => ['0']
  | _ => cs.takeWhile isDigit

/-- Reads a number without its sign: its digits, and then a fraction and an exponent, either of
which makes it a double. -/
def readMagnitude? (limits : Limits) (negative : Bool) (cs : List Char) : Option (Reading Json) :=
  let whole := wholeDigits cs
  if whole.isEmpty then none
  else
    let (fraction, afterFraction) := splitFraction (cs.drop whole.length)
    let (exponent, rest) := splitExponent afterFraction
    if fraction.isEmpty && exponent.isNone then
      if limits.digits.any (· < whole.length) then
        some (.error ⟨.tooManyDigits whole.length, rest⟩)
      else
        let magnitude : Int := digitsValue whole
        some (.ok (int (if negative then -magnitude else magnitude), rest))
    else
      let scale : Int := exponent.getD 0 - fraction.length
      some (.ok (float (Binary64.ofDecimal negative (digitsValue (whole ++ fraction)) scale), rest))

/-- Reads a word that stands for a value, or a number. -/
def readScalar (limits : Limits) (cs : List Char) : Reading Json :=
  let words : List (String × Json) :=
    [("null", null), ("true", bool true), ("false", bool false), ("NaN", float (0.0 / 0.0)),
      ("Infinity", float (1.0 / 0.0)), ("-Infinity", float (-1.0 / 0.0))]
  let word? : Option (Reading Json) := words.findSome? fun (word, value) ↦
    (afterWord? word.toList cs).map fun rest ↦ .ok (value, rest)
  let number? := match cs with
    | '-' :: rest => readMagnitude? limits true rest
    | _ => readMagnitude? limits false cs
  (word? <|> number?).getD (.error ⟨.missingValue, cs⟩)

/-! ### Documents -/

/-- Reads a name and the colon after it, up to the first character of the value. -/
def readName (cs : List Char) : Reading String :=
  match cs with
  | '"' :: body =>
    match readText cs [] body with
    | .error failure => .error failure
    | .ok (name, rest) =>
      match skipSpace rest with
      | ':' :: value => .ok (name, skipSpace value)
      | other => .error ⟨.missingColon, other⟩
  | _ => .error ⟨.missingName, cs⟩

mutual

/-- Reads a value that starts at the first character. The number of values is bounded by the
fuel. -/
def readValue (limits : Limits) : Nat → List Char → Reading Json
  | 0, cs => .error ⟨.missingValue, cs⟩
  | fuel + 1, cs =>
    match cs with
    | '"' :: body => (readText cs [] body).map fun (value, rest) ↦ (text value, rest)
    | '[' :: body =>
      if limits.nesting = 0 then .error ⟨.nestedTooDeeply .list, cs⟩
      else
        match skipSpace body with
        | ']' :: rest => .ok (list [], rest)
        | items => (readItems limits.inner fuel items).map fun (values, rest) ↦ (list values, rest)
    | '{' :: body =>
      if limits.nesting = 0 then .error ⟨.nestedTooDeeply .object, cs⟩
      else
        match skipSpace body with
        | '}' :: rest => .ok (object [], rest)
        | fields => (readFields limits.inner fuel fields).map fun (values, rest) ↦
            (object (fieldsOf values), rest)
    | _ => readScalar limits cs

/-- Reads the items of a list up to its closing bracket. -/
def readItems (limits : Limits) : Nat → List Char → Reading (List Json)
  | 0, cs => .error ⟨.missingValue, cs⟩
  | fuel + 1, cs =>
    match readValue limits fuel cs with
    | .error failure => .error failure
    | .ok (value, rest) =>
      match skipSpace rest with
      | ']' :: after => .ok ([value], after)
      | ',' :: more => (readItems limits fuel (skipSpace more)).map fun (values, after) ↦
          (value :: values, after)
      | other => .error ⟨.missingComma, other⟩

/-- Reads the fields of an object up to its closing brace. -/
def readFields (limits : Limits) : Nat → List Char → Reading (List (String × Json))
  | 0, cs => .error ⟨.missingName, cs⟩
  | fuel + 1, cs =>
    match readName cs with
    | .error failure => .error failure
    | .ok (name, body) =>
      match readValue limits fuel body with
      | .error failure => .error failure
      | .ok (value, rest) =>
        match skipSpace rest with
        | '}' :: after => .ok ([(name, value)], after)
        | ',' :: more => (readFields limits fuel (skipSpace more)).map fun (values, after) ↦
            ((name, value) :: values, after)
        | other => .error ⟨.missingComma, other⟩

end

/-- Reads a whole document: one value with white space around it. -/
def parseWithin (limits : Limits) (cs : List Char) : Except ParseError Json :=
  let place (failure : Failure) : ParseError :=
    ⟨failure.flaw, cs.take (cs.length - failure.rest.length)⟩
  match cs with
  | '\ufeff' :: _ => .error ⟨.byteOrderMark, []⟩
  | _ =>
    match readValue limits (2 * cs.length + 2) (skipSpace cs) with
    | .error failure => .error (place failure)
    | .ok (value, rest) =>
      match skipSpace rest with
      | [] => .ok value
      | extra => .error (place ⟨.trailingData, extra⟩)

/-- Reads a whole document whose values may be nested as deeply as `nesting` says. -/
def parseChars (nesting : Nat) (cs : List Char) : Except ParseError Json :=
  parseWithin (.ofNesting nesting) cs

/-- Reads a whole document whose values may be nested as deeply as `nesting` says. -/
def parse (nesting : Nat) (document : String) : Except ParseError Json :=
  parseChars nesting document.toList

end Cosmac.Json
