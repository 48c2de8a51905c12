import Cosmac.Text.Identifier
import Cosmac.Text.Pattern.Basic
import Cosmac.Text.Pattern.Escape
import Cosmac.Text.Pattern.Settings

/-!
# Reading patterns

The notation of patterns as a whole: `Pattern.ofText` reads a text, and says why it is no pattern.

Inside each function the rest of the notation is handed on, and `Groups` is what has been seen of
groups so far. What is wrong with the pattern as a whole is only told once it has been read.
-/

set_option autoImplicit false

namespace Cosmac.Text.Pattern

/-! ### Groups -/

/-- What has been seen of groups. -/
structure Groups where
  /-- The number of groups that have been opened. -/
  count : Nat
  /-- The lengths of those that have been closed, by their numbers. -/
  closed : List (Nat × Lengths)
  /-- The names of groups with their numbers. -/
  names : List (List Symbol × Nat)
  /-- The greatest number by which a group has been mentioned before it was opened. -/
  awaited : Nat
  /-- Whether something was wrong that is told later. -/
  isDoubtful : Bool
  deriving Repr

/-- The present part of a pattern. -/
structure Scope where
  /-- How it is read. -/
  settings : Settings
  /-- The number of groups before the text behind a place, if the part is inside one. -/
  behind : Option Nat
  /-- How many pairs of parentheses it is in. -/
  depth : Nat
  deriving Repr

/-- How many pairs of parentheses a part may be in. -/
def deepest : Nat := 484

/-- What a pair of parentheses in a part encloses. -/
def Scope.inside (scope : Scope) : Except PatternError Scope :=
  if scope.depth < deepest then .ok { scope with depth := scope.depth + 1 }
  else .error .nestedTooDeeply

/-- Whether symbols are a name. -/
def isName (name : List Symbol) : Bool :=
  (charsOf? name).any isIdentifier

namespace Groups

/-- No groups. -/
def start : Groups :=
  ⟨0, [], [], 0, false⟩

/-- Opens a group, which may have a name of its own. -/
def open? (groups : Groups) (name : Option (List Symbol)) : Except PatternError Groups :=
  let number := groups.count + 1
  match name with
  | none => .ok { groups with count := number }
  | some name =>
    if (groups.names.lookup name).isSome || !isName name then .error .malformed
    else .ok { groups with count := number, names := (name, number) :: groups.names }

/-- Closes a group. -/
def close (groups : Groups) (number : Nat) (lengths : Lengths) : Groups :=
  { groups with closed := (number, lengths) :: groups.closed }

/-- The lengths of a group. -/
def lengthsOf (groups : Groups) (number : Nat) : Lengths :=
  (groups.closed.lookup number).getD (.exactly 0)

/-- Notes that something is wrong, unless it is not. -/
def doubt (groups : Groups) (isRight : Bool) : Groups :=
  { groups with isDoubtful := groups.isDoubtful || !isRight }

/-- Whether a group has been closed and lies, if a text behind a place mentions it, before that
text. -/
def isKnown (groups : Groups) (scope : Scope) (number : Nat) : Bool :=
  (groups.closed.lookup number).isSome && scope.behind.all (number ≤ ·)

/-- The text of a group once more. -/
def again (groups : Groups) (scope : Scope) (number : Nat) : Except PatternError Pattern :=
  if groups.isKnown scope number then .ok (.again scope.settings.mode number)
  else .error .malformed

/-- The group that something depends on, by its name or number. By its number it may be mentioned
before it is opened. -/
def mention (groups : Groups) (scope : Scope) (name : List Symbol) :
    Except PatternError (Nat × Groups) := do
  let (number, groups) ←
    if isName name then
      match groups.names.lookup name with
      | some number => pure (number, groups)
      | none => throw .malformed
    else
      match Numeral.read? 10 (String.ofList (spelled name)) with
      | some (.ofNat (number + 1)) =>
        pure (number + 1, { groups with awaited := max groups.awaited (number + 1) })
      | _ => throw .malformed
  if scope.behind.isNone || groups.isKnown scope number then return (number, groups)
  else throw .malformed

end Groups

/-! ### Parts -/

/-- What has been read of a sequence: the parts of it, and whether they can be repeated. -/
structure Item where
  /-- The parts. -/
  parts : List Pattern
  /-- Whether they can be repeated. -/
  isRepeatable : Bool

namespace Item

/-- A single part that can be repeated. -/
def ofPattern (p : Pattern) : Item :=
  ⟨[p], true⟩

/-- A member by itself. -/
def ofMember (mode : Mode) (member : Member) : Item :=
  .ofPattern (.one mode (.ofMember member))

/-- A place. -/
def ofAnchor (a : Anchor) : Item :=
  ⟨[.anchor a], false⟩

/-- The parts of items, the last of which comes first. -/
def allParts (items : List Item) : List Pattern :=
  items.reverse.flatMap Item.parts

end Item

/-- The place that a letter names after a backslash. -/
def namedAnchor? (isAscii : Bool) : Char → Option Anchor
  | 'A' => some .textStart
  | 'b' => some (.wordEdge isAscii true)
  | 'B' => some (.wordEdge isAscii false)
  | 'Z' => some .textEnd
  | _ => none

/-- Reads what a digit after a backslash begins: after zero, and for three octal digits, the number
of a character, else the number of a group, of one digit or two. -/
def readNumber (groups : Groups) (scope : Scope) (first : Nat) (ts : List Token) :
    Except PatternError (Item × List Token) :=
  if first = 0 || (first < 8 && (digitsOf 8 2 ts).1.length = 2) then
    (readOctal first ts).map fun (member, rest) ↦ (.ofMember scope.settings.mode member, rest)
  else
    let (more, rest) := digitsOf 10 1 ts
    (groups.again scope (Numeral.ofDigits 10 (first :: more))).map fun p ↦ (.ofPattern p, rest)

/-- Reads what a symbol after a backslash stands for. -/
def readEscaped (groups : Groups) (scope : Scope) (s : Symbol) (ts : List Token) :
    Except PatternError (Item × List Token) :=
  let mode := scope.settings.mode
  match s with
  | .surrogate _ => .ok (.ofMember mode (.single s), ts)
  | .char c =>
    match namedAnchor? mode.isAscii c, (Token.sign c).digit? 10 with
    | some a, _ => .ok (.ofAnchor a, ts)
    | none, some first => readNumber groups scope first ts
    | none, none => (readEscape c ts).map fun (member, rest) ↦ (.ofMember mode member, rest)

/-- Reads a part that is no group. -/
def readSimple (groups : Groups) (scope : Scope) :
    List Token → Except PatternError (Item × List Token)
  | [] | .dangling :: _ => .error .malformed
  | .escaped s :: ts => readEscaped groups scope s ts
  | .plain s :: ts =>
    let settings := scope.settings
    if s = .char '^' then
      .ok (.ofAnchor (if settings.hasLines then .lineStart else .textStart), ts)
    else if s = .char '$' then
      .ok (.ofAnchor (if settings.hasLines then .lineEnd else .lastLineEnd), ts)
    else if s = .char '.' then
      let members : List Member := if settings.pointIsAny then [] else [.single (.char '\n')]
      .ok (.ofPattern (.one settings.mode ⟨members, true⟩), ts)
    else if s = .char '[' then
      (readBrackets ts).map fun (set, rest) ↦ (.ofPattern (.one settings.mode set), rest)
    else .ok (.ofMember settings.mode (.single s), ts)

/-! ### Repetitions -/

/-- How often something is repeated. -/
structure Times where
  /-- The least number of times. -/
  least : Nat
  /-- The greatest number of times, if there is one. -/
  most : Option Nat

/-- A number of repetitions: it has at most 4300 digits and fits in four bytes. The greatest such
number is set aside. -/
def countOf (digits : List Nat) : Except PatternError Nat :=
  if 4300 < digits.length then .error (.tooManyDigits digits.length)
  else if 0xFFFFFFFF ≤ Numeral.ofDigits 10 digits then .error .tooManyTimes
  else .ok (Numeral.ofDigits 10 digits)

/-- Reads numbers of repetitions between braces from after the opening one: a number, or a least and
a greatest one, each of which may be left out. Nothing is read if something else stands there. -/
def readTimes (ts : List Token) : Except PatternError (Option (Times × List Token)) := do
  let (low, rest) := digitsOf 10 ts.length ts
  let (high, rest) := match rest with
    | .sign ',' :: rest => digitsOf 10 rest.length rest
    | _ => (low, rest)
  match ts, rest with
  | .sign '}' :: _, _ => return none
  | _, .sign '}' :: rest =>
    if rest = [.dangling] then throw .malformed
    let least ← countOf low
    let most ← countOf high
    if high.isEmpty then return some (⟨least, none⟩, rest)
    else if most < least then throw .malformed
    else return some (⟨least, some most⟩, rest)
  | _, _ => return none

/-- Reads the repetition that stands at the start, if one does. -/
def readRepetition : List Token → Except PatternError (Option (Times × List Token))
  | .sign '*' :: rest => .ok (some (⟨0, none⟩, rest))
  | .sign '+' :: rest => .ok (some (⟨1, none⟩, rest))
  | .sign '?' :: rest => .ok (some (⟨0, some 1⟩, rest))
  | .sign '{' :: rest => readTimes rest
  | _ => .ok none

/-- The repetition of what has been read last, as the sign after it says: lazy, committed or
neither. Where it is committed, each time is. -/
def repeatLast (times : Times) (items : List Item) (ts : List Token) :
    Except PatternError (List Item × List Token) :=
  match items with
  | [] => .error .malformed
  | item :: items =>
    let ⟨least, most⟩ := times
    let p := ofParts item.parts
    let add (p : Pattern) (rest : List Token) : List Item × List Token :=
      (⟨[p], false⟩ :: items, rest)
    if !item.isRepeatable then .error .malformed
    else
      match ts with
      | .sign '?' :: rest => .ok (add (.repeated true least most p) rest)
      | .sign '+' :: rest => .ok (add (.committed (.repeated false least most (.committed p))) rest)
      | _ => .ok (add (.repeated false least most p) ts)

/-! ### Openings -/

/-- What a parenthesis begins. -/
inductive Opening where
  /-- A comment, which has been read. -/
  | comment
  /-- A group whose text is remembered. -/
  | group (name : Option (List Symbol))
  /-- A group that keeps its parts together. -/
  | bare
  /-- A part that is read by other settings. -/
  | changed (change : Change)
  /-- A part whose first fit is not taken back. -/
  | committed
  /-- A part that is looked for, or must not be there, before or behind a place. -/
  | look (isBehind isMeant : Bool)
  /-- The text of a named group once more, which has been read. -/
  | again (name : List Symbol)
  /-- One of two parts, depending on a group. -/
  | dependent (name : List Symbol)

/-- The opening that holds a name before a sign. -/
def openingOf (make : List Symbol → Opening) (sign : Char) (ts : List Token) :
    Except PatternError (Opening × List Token) :=
  match until? sign ts with
  | some (name, rest) => .ok (make name, rest)
  | none => .error .malformed

/-- Reads what a parenthesis begins. -/
def readOpening : List Token → Except PatternError (Opening × List Token)
  | .sign '?' :: ts =>
    match ts with
    | .sign ':' :: rest => .ok (.bare, rest)
    | .sign '>' :: rest => .ok (.committed, rest)
    | .sign '=' :: rest => .ok (.look false true, rest)
    | .sign '!' :: rest => .ok (.look false false, rest)
    | .sign '<' :: .sign '=' :: rest => .ok (.look true true, rest)
    | .sign '<' :: .sign '!' :: rest => .ok (.look true false, rest)
    | .sign 'P' :: .sign '<' :: rest => openingOf (.group ∘ some) '>' rest
    | .sign 'P' :: .sign '=' :: rest => openingOf .again ')' rest
    | .sign '(' :: rest => openingOf .dependent ')' rest
    | .sign '#' :: rest =>
      match afterComment? rest with
      | some rest => .ok (.comment, rest)
      | none => .error .malformed
    | _ =>
      match (readChange? ts).filter (!·.1.isGlobal) with
      | some (change, rest) => .ok (.changed change, rest)
      | none => .error .malformed
  | ts => .ok (.group none, ts)

/-- The tokens after a closing parenthesis. -/
def afterClosing : List Token → Except PatternError (List Token)
  | .sign ')' :: rest => .ok rest
  | _ => .error .malformed

/-- A part that is looked for. Behind a place, the texts that fit it have a single length, which
fits in four bytes. -/
def lookFor (isBehind isMeant : Bool) (parts : List Pattern) (groups : Groups) : Item × Groups :=
  let p := ofParts parts
  let ⟨least, most⟩ := p.lengths groups.lengthsOf
  if isBehind then
    (.ofPattern (.look (some least) isMeant p),
      groups.doubt (most = some least && least ≤ 0xFFFFFFFF))
  else (.ofPattern (.look none isMeant p), groups)

/-! ### Patterns -/

/-- What reading gives: something, the groups then, and the rest. -/
abbrev Reading (α : Type) := α × Groups × List Token

mutual

/-- Reads a sequence up to a bar, a closing parenthesis or the end. `items` is what has been read of
it, last first. -/
def readSequence : Nat → Scope → Groups → List Item → List Token →
    Except PatternError (Reading (List Pattern))
  | 0, _, _, _, _ => .error .malformed
  | fuel + 1, scope, groups, items, ts =>
    match ts, if scope.settings.isSpaced then afterSpace? ts else none with
    | [], _ | .sign '|' :: _, _ | .sign ')' :: _, _ => .ok (Item.allParts items, groups, ts)
    | _, some rest => readSequence fuel scope groups items rest
    | .sign '(' :: rest, none => do
      let (item, groups, rest) ← readGroup fuel scope groups rest
      readSequence fuel scope groups (item.toList ++ items) rest
    | _, none => do
      match ← readRepetition ts with
      | some (times, rest) =>
        let (items, rest) ← repeatLast times items rest
        readSequence fuel scope (groups.doubt (!scope.settings.isSimple)) items rest
      | none =>
        let (item, rest) ← readSimple groups scope ts
        readSequence fuel scope groups (item :: items) rest

/-- Reads a choice up to a closing parenthesis or the end. `alternatives` is what has been read of
it, last first. -/
def readChoice : Nat → Scope → Groups → List (List Pattern) → List Token →
    Except PatternError (Reading (List Pattern))
  | 0, _, _, _, _ => .error .malformed
  | fuel + 1, scope, groups, alternatives, ts => do
    match ← readSequence fuel scope groups [] ts with
    | (parts, groups, .sign '|' :: rest) =>
      readChoice fuel scope groups (parts :: alternatives) rest
    | (parts, groups, rest) =>
      return (joined scope.settings.mode (parts :: alternatives).reverse, groups, rest)

/-- Reads a part in parentheses from after the opening one. A comment is no part. -/
def readGroup : Nat → Scope → Groups → List Token → Except PatternError (Reading (Option Item))
  | 0, _, _, _ => .error .malformed
  | fuel + 1, scope, groups, ts => do
    let inner (scope : Scope) (groups : Groups) (ts : List Token) :
        Except PatternError (Reading (List Pattern)) := do
      let (parts, groups, rest) ← readChoice fuel (← scope.inside) groups [] ts
      return (parts, groups, ← afterClosing rest)
    match ← readOpening ts with
    | (.comment, rest) => return (none, groups, rest)
    | (.again name, rest) =>
      match groups.names.lookup name with
      | some number => return (some (.ofPattern (← groups.again scope number)), groups, rest)
      | none => throw .malformed
    | (.bare, rest) =>
      let (parts, groups, rest) ← inner scope groups rest
      return (some ⟨parts, true⟩, groups, rest)
    | (.changed change, rest) =>
      let scope := { scope with settings := scope.settings.after change }
      let (parts, groups, rest) ← inner scope groups rest
      return (some (.ofPattern (ofParts parts)), groups, rest)
    | (.committed, rest) =>
      let (parts, groups, rest) ← inner scope groups rest
      return (some (.ofPattern (.committed (ofParts parts))), groups, rest)
    | (.group name, rest) =>
      let groups ← groups.open? name
      let number := groups.count
      let (parts, groups, rest) ← inner scope groups rest
      let p := ofParts parts
      let groups := groups.close number (p.lengths groups.lengthsOf)
      return (some (.ofPattern (.group number p)), groups, rest)
    | (.look isBehind isMeant, rest) =>
      let behind := if isBehind then scope.behind.or (some groups.count) else scope.behind
      let (parts, groups, rest) ← inner { scope with behind } groups rest
      let (item, groups) := lookFor isBehind isMeant parts groups
      return (some item, groups, rest)
    | (.dependent name, rest) =>
      let (number, groups) ← groups.mention scope name
      let scope ← scope.inside
      let (a, groups, rest) ← readSequence fuel scope groups [] rest
      let (b, groups, rest) ← match rest with
        | .sign '|' :: rest => readSequence fuel scope groups [] rest
        | _ => pure ([], groups, rest)
      let p := Pattern.dependent number (ofParts a) (ofParts b)
      return (some (.ofPattern p), groups, ← afterClosing rest)

end

/-- The pattern that a text denotes. -/
def ofText (mode : Mode) (text : String) : Except PatternError Pattern := do
  let ts := tokens (symbols text.toList)
  let fuel := 3 * ts.length + 3
  let (settings, letters, ts) := readPrelude fuel { mode } [] ts
  let (parts, groups, rest) ← readChoice fuel ⟨settings, none, 0⟩ .start [] ts
  if letters.contains 'a' && letters.contains 'u' then throw .conflictingSettings
  if !rest.isEmpty || groups.count < groups.awaited || groups.isDoubtful then throw .malformed
  return ofParts parts

end Cosmac.Text.Pattern
