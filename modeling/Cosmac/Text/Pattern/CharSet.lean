import Cosmac.Text.Alphanumeric
import Cosmac.Text.Blank
import Cosmac.Text.Capital
import Cosmac.Text.DecimalDigit
import Cosmac.Text.LowerCase
import Cosmac.Text.Symbol

/-!
# Sets of symbols in patterns

What a single symbol of a text is compared with. `Mode` tells whether case matters and whether the
characters beyond ASCII have any case or kind, `Mode.alike` whether two symbols are the same but for
their case, and `CharSet.holds` whether a symbol is in a set.
-/

set_option autoImplicit false

namespace Cosmac.Text

/-! ### Case -/

/-- How symbols are compared. -/
structure Mode where
  /-- Whether the case of letters does not matter. -/
  ignoresCase : Bool
  /-- Whether only ASCII characters are letters, digits or white space. -/
  isAscii : Bool
  deriving DecidableEq, Repr

/-- Small letters that differ although they have a capital in common or look the same. -/
def caseClasses : Array (List Char) :=
  #[['i', 'ı'], ['s', 'ſ'], ['µ', 'μ'], ['\u0345', 'ι', '\u1fbe'], ['\u0390', '\u1fd3'],
  ['\u03b0', '\u1fe3'], ['β', 'ϐ'], ['ε', 'ϵ'], ['θ', 'ϑ'], ['κ', 'ϰ'], ['π', 'ϖ'], ['ρ', 'ϱ'],
  ['ς', 'σ'], ['φ', 'ϕ'], ['в', '\u1c80'], ['д', '\u1c81'], ['о', '\u1c82'], ['с', '\u1c83'],
  ['т', '\u1c84', '\u1c85'], ['ъ', '\u1c86'], ['ѣ', '\u1c87'], ['\u1c88', 'ꙋ'], ['ṡ', 'ẛ'],
  ['ﬅ', 'ﬆ']]

/-- The small letters that are like a small letter, itself among them. -/
def caseClass (c : Char) : List Char :=
  (caseClasses.find? fun letters ↦ letters.contains c).getD [c]

namespace Mode

/-- The small letter of a character. The dot of a capital i gets lost. -/
def loweredChar (mode : Mode) (c : Char) : Char :=
  if !mode.ignoresCase then c
  else if mode.isAscii then c.toLower
  else if c = 'İ' then 'i'
  else lowerChar c

/-- The small form of a symbol. -/
def lowered (mode : Mode) : Symbol → Symbol
  | .char c => .char (mode.loweredChar c)
  | .surrogate unit => .surrogate unit

/-- Whether two symbols are the same but for their case. -/
def alike (mode : Mode) (a b : Symbol) : Bool :=
  match mode.lowered a, mode.lowered b with
  | .char c, .char d =>
    c = d || (mode.ignoresCase && !mode.isAscii && (caseClass c).contains d)
  | a, b => a = b

/-- The characters whose small letter is a character. -/
def unlowered (c : Char) : List Char :=
  let capitals := (lowerRuns.map fun run ↦ Char.ofNat ((c.toNat : Int) - run.2.2.2).toNat).toList
  (c :: 'İ' :: capitals).filter fun d ↦ loweredChar ⟨true, false⟩ d = c

/-- The characters that are the same as a character but for their case. -/
def variants (mode : Mode) (c : Char) : List Char :=
  if !mode.ignoresCase then [c]
  else if mode.isAscii then [c, c.toLower, c.toUpper]
  else (caseClass (mode.loweredChar c)).flatMap unlowered

end Mode

/-! ### Kinds -/

/-- A kind of characters. -/
inductive Kind where
  /-- The decimal digits. -/
  | digit
  /-- The white space. -/
  | blank
  /-- What words are made of. -/
  | word
  deriving DecidableEq, Repr

/-- Whether a character is of a kind. -/
def Kind.hasChar (isAscii : Bool) (c : Char) : Kind → Bool
  | digit => if isAscii then c.isDigit else (decimalDigit? c).isSome
  | blank => if isAscii then c = ' ' || ('\t' ≤ c && c ≤ '\r') else isBlank c
  | word => (if isAscii then c.isAlphanum else isAlphanumeric c) || c = '_'

/-- Whether a symbol is of a kind. -/
def Kind.has (isAscii : Bool) (kind : Kind) : Symbol → Bool
  | .char c => kind.hasChar isAscii c
  | .surrogate _ => false

/-! ### Sets -/

/-- What a set consists of. -/
inductive Member where
  /-- A single symbol. -/
  | single (s : Symbol)
  /-- The symbols from one code point to another. -/
  | range (first last : Nat)
  /-- The symbols of a kind, or those that are not. -/
  | kind (kind : Kind) (isMeant : Bool)
  deriving DecidableEq, Repr

/-- A set of symbols: those of any member or, if it is negated, all others. -/
structure CharSet where
  /-- The members. -/
  members : List Member
  /-- Whether the others are meant. -/
  isNegated : Bool
  deriving DecidableEq, Repr

/-- Whether a symbol or a variant of it is in a range. In one that reaches beyond the first plane
the capital of its small letter counts too. -/
def Mode.inRange (mode : Mode) (first last : Nat) (s : Symbol) : Bool :=
  let isIn (point : Nat) : Bool := first ≤ point && point ≤ last
  match s with
  | .surrogate unit => isIn unit
  | .char c =>
    (mode.variants c).any (isIn ·.toNat)
      || (mode.ignoresCase && 0xFFFF < last && isIn (capital (mode.loweredChar c)).toNat)

/-- Whether a symbol is as a member says. Beside other members, a symbol beyond the first plane is
compared with the small form only. -/
def Member.holds (mode : Mode) (isAlone : Bool) (s : Symbol) : Member → Bool
  | single other =>
    if isAlone || other.codePoint < 0x10000 then mode.alike other s else mode.lowered s = other
  | range first last => mode.inRange first last s
  | kind k isMeant => k.has mode.isAscii s = isMeant

namespace CharSet

/-- The set of a member. -/
def ofMember (member : Member) : CharSet :=
  ⟨[member], false⟩

/-- Whether a symbol is in a set. -/
def holds (mode : Mode) (set : CharSet) (s : Symbol) : Bool :=
  set.members.any (·.holds mode (set.members.length = 1) s) != set.isNegated

end CharSet

end Cosmac.Text
