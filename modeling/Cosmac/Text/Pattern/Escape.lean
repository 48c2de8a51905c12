import Cosmac.Text.CharacterName
import Cosmac.Text.Pattern.CharSet
import Cosmac.Text.Pattern.Token

/-!
# The notation of patterns: escapes and brackets

What stands for a set. `readEscape` reads what a symbol after a backslash stands for both inside and
outside brackets, and `readBrackets` reads a set between brackets.
-/

set_option autoImplicit false

namespace Cosmac.Text.Pattern

/-! ### Escapes -/

/-- The character that a letter names after a backslash. -/
def namedChar? : Char → Option Char
  | 'a' => some '\x07'
  | 'f' => some '\x0c'
  | 'n' => some '\n'
  | 'r' => some '\r'
  | 't' => some '\t'
  | 'v' => some '\x0b'
  | _ => none

/-- The kind that a letter names after a backslash: the capital names the others. -/
def namedKind? : Char → Option Member
  | 'd' => some (.kind .digit true)
  | 'D' => some (.kind .digit false)
  | 's' => some (.kind .blank true)
  | 'S' => some (.kind .blank false)
  | 'w' => some (.kind .word true)
  | 'W' => some (.kind .word false)
  | _ => none

/-- The number of hexadecimal digits that a letter demands after it. -/
def digitCount? : Char → Option Nat
  | 'x' => some 2
  | 'u' => some 4
  | 'U' => some 8
  | _ => none

/-- The member that a code point is. -/
def memberOfPoint (point : Nat) : Member :=
  .single (.ofCodePoint point)

/-- Reads the code point of exactly so many hexadecimal digits. -/
def readPoint (count : Nat) (ts : List Token) : Except PatternError (Member × List Token) :=
  let (digits, rest) := digitsOf 16 count ts
  let point := Numeral.ofDigits 16 digits
  if digits.length = count ∧ point < 0x110000 then .ok (memberOfPoint point, rest)
  else .error .malformed

/-- Reads the name of a character between braces. -/
def readName : List Token → Except PatternError (Member × List Token)
  | .sign '{' :: ts =>
    match until? '}' ts with
    | some (name, rest) =>
      match (charsOf? name).bind namedPoint? with
      | some point => .ok (memberOfPoint point, rest)
      | none => .error .malformed
    | none => .error .malformed
  | _ => .error .malformed

/-- Reads what a character after a backslash stands for. Letters and digits without a meaning stand
for nothing. -/
def readEscape (c : Char) (ts : List Token) : Except PatternError (Member × List Token) :=
  match namedKind? c, namedChar? c, digitCount? c with
  | some member, _, _ => .ok (member, ts)
  | _, some named, _ => .ok (.single (.char named), ts)
  | _, _, some count => readPoint count ts
  | none, none, none =>
    if c = 'N' then readName ts
    else if c.isAlphanum then .error .malformed
    else .ok (.single (.char c), ts)

/-- Reads a character by its number of up to three octal digits, the first of which is given. -/
def readOctal (first : Nat) (ts : List Token) : Except PatternError (Member × List Token) :=
  let (more, rest) := digitsOf 8 2 ts
  let point := Numeral.ofDigits 8 (first :: more)
  if point ≤ 0xFF then .ok (memberOfPoint point, rest) else .error .malformed

/-! ### Brackets -/

/-- Reads a member of a set. After a backslash, a `b` stands for the backspace. -/
def readMember : List Token → Except PatternError (Member × List Token)
  | .plain s :: ts => .ok (.single s, ts)
  | .escaped (.char c) :: ts =>
    match (Token.sign c).digit? 8 with
    | some first => readOctal first ts
    | none => if c = 'b' then .ok (.single (.char '\x08'), ts) else readEscape c ts
  | .escaped s :: ts => .ok (.single s, ts)
  | .dangling :: _ | [] => .error .malformed

/-- The range between two members, which are single symbols in order. -/
def rangeOf : Member → Member → Except PatternError Member
  | .single first, .single last =>
    if first.codePoint ≤ last.codePoint then .ok (.range first.codePoint last.codePoint)
    else .error .malformed
  | _, _ => .error .malformed

/-- Reads the members of a set up to the closing bracket, onto those before them, last first. A
bracket that comes first is a member. The fuel bounds the number of members. -/
def readMembers : Nat → List Member → List Token → Except PatternError (List Member × List Token)
  | 0, _, _ => .error .malformed
  | fuel + 1, members, ts =>
    if !members.isEmpty && ts.head? = some (.sign ']') then
      .ok (members.reverse.eraseDups, ts.drop 1)
    else do
      match ← readMember ts with
      | (member, .sign '-' :: .sign ']' :: rest) =>
        return ((.single (.char '-') :: member :: members).reverse.eraseDups, rest)
      | (member, .sign '-' :: rest) =>
        let (last, rest) ← readMember rest
        readMembers fuel ((← rangeOf member last) :: members) rest
      | (member, rest) => readMembers fuel (member :: members) rest

/-- Reads a set from after its opening bracket. -/
def readBrackets (ts : List Token) : Except PatternError (CharSet × List Token) := do
  let (isNegated, ts) := match ts with
    | .sign '^' :: rest => (true, rest)
    | _ => (false, ts)
  let (members, rest) ← readMembers (ts.length + 1) [] ts
  return (⟨members, isNegated⟩, rest)

end Cosmac.Text.Pattern
