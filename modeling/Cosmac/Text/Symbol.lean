/-!
# Symbols

A text is a sequence of symbols. Most are characters; a document can also name a surrogate, half of
the pair of code units that a character beyond the first plane needs, and leave it without its
partner. A string keeps a text symbol by symbol: `Symbol.spelling` writes a character as itself,
writes a surrogate as a mark and a private character, and doubles the mark itself. `symbols` reads
the symbols back, so that two strings are equal exactly if their texts are.
-/

set_option autoImplicit false

namespace Cosmac.Text

/-! ### Code units -/

/-- Whether a code unit is the first half of a pair. -/
def isLeading (unit : Nat) : Bool :=
  0xD800 ≤ unit && unit < 0xDC00

/-- Whether a code unit is the second half of a pair. -/
def isTrailing (unit : Nat) : Bool :=
  0xDC00 ≤ unit && unit < 0xE000

/-! ### Symbols -/

/-- What a text is made of. -/
inductive Symbol where
  /-- A character. -/
  | char (c : Char)
  /-- A surrogate without its partner. -/
  | surrogate (unit : Nat)
  deriving DecidableEq, Repr

namespace Symbol

/-- The symbol of a code point. -/
def ofCodePoint (point : Nat) : Symbol :=
  if isLeading point || isTrailing point then surrogate point else char (Char.ofNat point)

/-- The symbol that two paired code units denote. -/
def ofPair (leading trailing : Nat) : Symbol :=
  char (Char.ofNat (0x10000 + (leading - 0xD800) * 0x400 + (trailing - 0xDC00)))

/-- The code point of a symbol. -/
def codePoint : Symbol → Nat
  | char c => c.toNat
  | surrogate unit => unit

/-- The surrogate that a symbol is. -/
def surrogate? : Symbol → Option Nat
  | char _ => none
  | surrogate unit => some unit

end Symbol

/-! ### Spelling -/

/-- The mark: the last code point, which is set aside for no character. -/
def mark : Char :=
  Char.ofNat 0x10FFFF

/-- The surrogate that a character after the mark stands for: that character lies as far into the
last private plane as the surrogate into the first plane. -/
def surrogateOf? (c : Char) : Option Nat :=
  if 0x10D800 ≤ c.toNat ∧ c.toNat < 0x10E000 then some (c.toNat - 0x100000) else none

/-- The characters that stand for a symbol. -/
def Symbol.spelling : Symbol → List Char
  | char c => if c = mark then [mark, mark] else [c]
  | surrogate unit => [mark, Char.ofNat (0x100000 + unit)]

/-- The characters that stand for symbols. -/
def spelled (symbols : List Symbol) : List Char :=
  symbols.flatMap Symbol.spelling

/-- The symbols that characters stand for, onto those of the characters before them, last first. A
mark that nothing fits stands for itself. -/
def symbolsOnto (acc : List Symbol) : List Char → List Symbol
  | [] => acc
  | [c] => .char c :: acc
  | c :: d :: rest =>
    if c = mark then
      match surrogateOf? d with
      | some unit => symbolsOnto (.surrogate unit :: acc) rest
      | none =>
        if d = mark then symbolsOnto (.char mark :: acc) rest
        else symbolsOnto (.char mark :: acc) (d :: rest)
    else symbolsOnto (.char c :: acc) (d :: rest)

/-- The symbols that characters stand for. -/
def symbols (cs : List Char) : List Symbol :=
  (symbolsOnto [] cs).reverse

/-- The text of characters that come from outside, where nothing is spelled. -/
def ofPlain (text : String) : String :=
  String.ofList (spelled (text.toList.map .char))

/-- The characters of a text, with the replacement character for each surrogate. -/
def toPlain (text : String) : String :=
  String.ofList ((symbols text.toList).map fun
    | .char c => c
    | .surrogate _ => '\ufffd')

/-- The symbols with each stretch of characters between surrogates changed. `stretch` holds the
characters of the present one, last first. -/
def mapStretches (change : List Char → List Char) (stretch : List Char) :
    List Symbol → List Symbol
  | [] => (change stretch.reverse).map .char
  | .char c :: rest => mapStretches change (c :: stretch) rest
  | .surrogate unit :: rest =>
    (change stretch.reverse).map .char ++ .surrogate unit :: mapStretches change [] rest

/-! ### Order -/

/-- Whether a text comes before another one, or is it, by the code points of its symbols. -/
def inOrder (a b : String) : Bool :=
  !((symbols b.toList).map Symbol.codePoint).lex ((symbols a.toList).map Symbol.codePoint)
    fun first second ↦ first < second

end Cosmac.Text
