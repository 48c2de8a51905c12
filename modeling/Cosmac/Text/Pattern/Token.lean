import Cosmac.Number.Numeral
import Cosmac.Text.Symbol

/-!
# The notation of patterns: tokens

A pattern is written in tokens: symbols, and symbols after a backslash. `tokens` divides the symbols
of a text, `digitsOf` reads the digits that tokens start with, and `until?` what stands before a
sign. `PatternError` says why a text is no pattern.
-/

set_option autoImplicit false

namespace Cosmac.Text

/-- Why a text is no pattern. -/
inductive PatternError where
  /-- It does not keep to the notation. -/
  | malformed
  /-- A number of repetitions has more digits than are read. -/
  | tooManyDigits (count : Nat)
  /-- A number of repetitions is too large. -/
  | tooManyTimes
  /-- Its settings take letters both as in ASCII and as in Unicode. -/
  | conflictingSettings
  /-- Its parentheses are nested too deeply. -/
  | nestedTooDeeply
  deriving DecidableEq, Repr

namespace Pattern

/-- What a pattern is written in. -/
inductive Token where
  /-- A symbol. -/
  | plain (s : Symbol)
  /-- A symbol after a backslash. -/
  | escaped (s : Symbol)
  /-- A backslash at the end. -/
  | dangling
  deriving DecidableEq, Repr

/-- The sign that a character is where no backslash stands before it. -/
@[match_pattern] abbrev Token.sign (c : Char) : Token :=
  .plain (.char c)

/-- The tokens of a text. -/
def tokens : List Symbol → List Token
  | [] => []
  | [s] => [if s = .char '\\' then .dangling else .plain s]
  | s :: next :: rest =>
    if s = .char '\\' then .escaped next :: tokens rest else .plain s :: tokens (next :: rest)

namespace Token

/-- The symbols of a token. -/
def spelling : Token → List Symbol
  | plain s => [s]
  | escaped s => [.char '\\', s]
  | dangling => [.char '\\']

/-- Whether a token is one of some signs. -/
def isAmong (signs : List Char) : Token → Bool
  | .sign c => signs.contains c
  | _ => false

/-- The value of a token that is an ASCII digit below a base. -/
def digit? (base : Nat) : Token → Option Nat
  | .sign c => if c.toNat < 0x80 then Numeral.digitBelow? base c else none
  | _ => none

end Token

/-- The digits that tokens start with, but not more than some number of them, and the rest. -/
def digitsOf (base : Nat) : Nat → List Token → List Nat × List Token
  | 0, ts => ([], ts)
  | _, [] => ([], [])
  | count + 1, t :: ts =>
    match t.digit? base with
    | some digit => ((digitsOf base count ts).map (digit :: ·) id)
    | none => ([], t :: ts)

/-- The symbols before a sign, of which there is at least one, and the rest after it. -/
def until? (sign : Char) (ts : List Token) : Option (List Symbol × List Token) :=
  match ts.takeWhile (· ≠ .sign sign), ts.dropWhile (· ≠ .sign sign) with
  | first :: more, _ :: rest => some ((first :: more).flatMap Token.spelling, rest)
  | _, _ => none

/-- The characters that symbols are, if none is a surrogate. -/
def charsOf? (symbols : List Symbol) : Option (List Char) :=
  symbols.mapM fun
    | .char c => some c
    | .surrogate _ => none

end Pattern

end Cosmac.Text
