import Cosmac.Text.Pattern.CharSet

/-!
# Patterns

A pattern describes texts: symbols by sets, and what is built from them by sequence, choice,
repetition and groups. `Pattern.lengths` bounds the lengths of the texts that fit a pattern.
-/

set_option autoImplicit false

namespace Cosmac.Text

/-- A condition on a place of a text. -/
inductive Anchor where
  /-- The start of the text. -/
  | textStart
  /-- The start of a line. -/
  | lineStart
  /-- The end of the text. -/
  | textEnd
  /-- The end of the text, or the line feed with which it ends. -/
  | lastLineEnd
  /-- The end of a line. -/
  | lineEnd
  /-- A place at which a word starts or ends, or one at which none does. An empty text has
  neither. -/
  | wordEdge (isAscii isMeant : Bool)
  deriving DecidableEq, Repr

/-- A pattern. -/
inductive Pattern where
  /-- The empty text. -/
  | empty
  /-- A symbol of a set. -/
  | one (mode : Mode) (set : CharSet)
  /-- A place. -/
  | anchor (anchor : Anchor)
  /-- One pattern after another. -/
  | sequence (a b : Pattern)
  /-- One of two patterns. -/
  | choice (a b : Pattern)
  /-- A pattern several times, as often as possible or, if it is lazy, as rarely. -/
  | repeated (isLazy : Bool) (least : Nat) (most : Option Nat) (p : Pattern)
  /-- A pattern whose text is remembered under a number. -/
  | group (number : Nat) (p : Pattern)
  /-- The text of a group once more. -/
  | again (mode : Mode) (number : Nat)
  /-- One of two patterns: the first if a group has a text, else the second. -/
  | dependent (number : Nat) (a b : Pattern)
  /-- A place at which a pattern fits, or does not. Where a length is given it ends at the place. -/
  | look (behind : Option Nat) (isMeant : Bool) (p : Pattern)
  /-- A pattern whose first fit is not taken back. -/
  | committed (p : Pattern)
  deriving DecidableEq, Repr

/-- How long texts are. -/
structure Lengths where
  /-- The least length. -/
  least : Nat
  /-- The greatest length, if there is one. -/
  most : Option Nat
  deriving DecidableEq, Repr

namespace Lengths

/-- A single length. -/
def exactly (length : Nat) : Lengths :=
  ⟨length, some length⟩

/-- The lengths of one text after another. -/
def add (a b : Lengths) : Lengths :=
  ⟨a.least + b.least, do return (← a.most) + (← b.most)⟩

/-- The lengths of one of two texts. -/
def join (a b : Lengths) : Lengths :=
  ⟨min a.least b.least, do return max (← a.most) (← b.most)⟩

/-- The lengths of several texts, one after another. No text at all has no length, and neither have
any number of empty ones. -/
def times (least : Nat) (most : Option Nat) (a : Lengths) : Lengths :=
  ⟨a.least * least,
    if a.most = some 0 ∨ most = some 0 then some 0 else do return (← a.most) * (← most)⟩

end Lengths

namespace Pattern

/-- The lengths of the texts that fit a pattern, by those of the groups it mentions. -/
def lengths (ofGroup : Nat → Lengths) : Pattern → Lengths
  | empty | anchor _ | look _ _ _ => .exactly 0
  | one _ _ => .exactly 1
  | sequence a b => (a.lengths ofGroup).add (b.lengths ofGroup)
  | choice a b | dependent _ a b => (a.lengths ofGroup).join (b.lengths ofGroup)
  | repeated _ least most p => (p.lengths ofGroup).times least most
  | group _ p | committed p => p.lengths ofGroup
  | again _ number => ofGroup number

/-! ### Building -/

/-- Patterns one after another. -/
def ofParts : List Pattern → Pattern :=
  List.foldr sequence empty

/-- Whether a pattern is a mere symbol, a place or a repeated text. -/
def isPlain : Pattern → Bool
  | one _ _ | anchor _ | again _ _ => true
  | _ => false

/-- What sequences start with in common, as far as it is plain, and their rests. -/
def splitCommon : List Pattern → List (List Pattern) → List Pattern × List (List Pattern)
  | p :: parts, others =>
    if p.isPlain && others.all (·.head? = some p) then
      let (common, rests) := splitCommon parts (others.map (·.drop 1))
      (p :: common, rests)
    else ([], (p :: parts) :: others)
  | [], others => ([], [] :: others)

/-- The members of a set that stands alone and is not negated. -/
def loneMembers? : List Pattern → Option (List Member)
  | [one _ set] => if set.isNegated then none else some set.members
  | _ => none

/-- The set of all members of sequences that are single sets. -/
def joinedSet? (mode : Mode) (alternatives : List (List Pattern)) : Option Pattern :=
  (alternatives.mapM loneMembers?).map fun members ↦ one mode ⟨members.flatten.eraseDups, false⟩

/-- The choice among patterns. -/
def ofAlternatives : List Pattern → Pattern
  | [] => empty
  | [p] => p
  | p :: rest => choice p (ofAlternatives rest)

/-- The parts of a choice among sequences: what they start with in common, and then the rest as a
single set, if it is one, or as a choice. -/
def joined (mode : Mode) : List (List Pattern) → List Pattern
  | [] => []
  | [parts] => parts
  | parts :: others =>
    let (common, rests) := splitCommon parts others
    common ++ [(joinedSet? mode rests).getD (ofAlternatives (rests.map ofParts))]

end Pattern

end Cosmac.Text
