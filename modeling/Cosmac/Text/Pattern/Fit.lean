import Cosmac.Text.Pattern.Basic

/-!
# Fitting

Whether a text is as a pattern says. A part of a pattern is run at a place of the text with the rest
of the pattern as its continuation, so that a choice that leads nowhere is taken back.
`Pattern.startsText` tells whether some start of a text fits.
-/

set_option autoImplicit false

namespace Cosmac.Text.Pattern

/-- A place in a text, and where the groups before it start and end. -/
structure Place where
  /-- The symbols before the place, the nearest first. -/
  before : List Symbol
  /-- The symbols after it. -/
  rest : List Symbol
  /-- The positions at which groups start, by their numbers, the latest first. -/
  starts : List (Nat × Nat)
  /-- The positions at which groups end, by their numbers, the latest first. -/
  ends : List (Nat × Nat)

namespace Place

/-- The number of symbols before a place. -/
def position (place : Place) : Nat :=
  place.before.length

/-- The place after some more symbols. -/
def advance (place : Place) (count : Nat) : Place :=
  { place with
    before := (place.rest.take count).reverse ++ place.before
    rest := place.rest.drop count }

/-- The place before some symbols, if there are as many. -/
def retreat? (place : Place) (count : Nat) : Option Place :=
  if count ≤ place.before.length then
    some { place with
      before := place.before.drop count
      rest := (place.before.take count).reverse ++ place.rest }
  else none

/-- The text of a group. While a group is open anew it has none, unless it starts where it has ended
before. -/
def content? (place : Place) (number : Nat) : Option (List Symbol) := do
  let start ← place.starts.lookup number
  let finish ← place.ends.lookup number
  if finish < start then none
  else return ((place.before.reverse ++ place.rest).drop start).take (finish - start)

/-- Whether a symbol is a line feed. -/
def isLineFeed (s : Symbol) : Bool :=
  s = .char '\n'

/-- Whether a place is as an anchor says. -/
def satisfies (place : Place) : Anchor → Bool
  | .textStart => place.before.isEmpty
  | .lineStart => place.before.head?.all isLineFeed
  | .textEnd => place.rest.isEmpty
  | .lastLineEnd => place.rest.isEmpty || place.rest = [.char '\n']
  | .lineEnd => place.rest.head?.all isLineFeed
  | .wordEdge isAscii isMeant =>
    let isWord (s : Symbol) : Bool := Kind.word.has isAscii s
    !(place.before.isEmpty && place.rest.isEmpty)
      && (place.before.head?.any isWord != place.rest.head?.any isWord) = isMeant

end Place

/-- What is done from a place on: it leads to a place, or nowhere. -/
abbrev Continuation := Place → Option Place

/-- Repeats a pattern, which is given by what running it before a continuation gives, at least and
at most some number of times. Once it has been repeated often enough, it is not repeated from where
its last repetition started. The fuel bounds the number of repetitions. -/
def runRepeated (run : Continuation → Continuation) (isLazy : Bool) (go : Continuation) :
    Nat → Nat → Option Nat → Option Nat → Continuation
  | 0, _, _, _, _ => none
  | fuel + 1, least, most, last, place =>
    let once (last : Option Nat) : Option Place :=
      run (runRepeated run isLazy go fuel (least - 1) (most.map (· - 1)) last) place
    let further (_ : Unit) : Option Place :=
      if most = some 0 ∨ last = some place.position then none else once (some place.position)
    if 0 < least then once last
    else if isLazy then (go place).or (further ())
    else (further ()).or (go place)

/-- Runs a pattern before a continuation. -/
def run : Pattern → Continuation → Continuation
  | empty, go, place => go place
  | one mode set, go, place =>
    match place.rest with
    | s :: _ => if set.holds mode s then go (place.advance 1) else none
    | [] => none
  | anchor a, go, place => if place.satisfies a then go place else none
  | sequence a b, go, place => run a (run b go) place
  | choice a b, go, place => (run a go place).or (run b go place)
  | repeated isLazy least most p, go, place =>
    runRepeated (run p) isLazy go (least + place.rest.length + 2) least most none place
  | group number p, go, place =>
    run p (fun next ↦ go { next with ends := (number, next.position) :: next.ends })
      { place with starts := (number, place.position) :: place.starts }
  | again mode number, go, place =>
    match place.content? number with
    | some content =>
      let found := place.rest.take content.length
      if found.map mode.lowered = content.map mode.lowered then go (place.advance content.length)
      else none
    | none => none
  | dependent number a b, go, place =>
    if (place.content? number).isSome then run a go place else run b go place
  | look behind isMeant p, go, place =>
    let start := match behind with
      | some length => place.retreat? length
      | none => some place
    match start.bind (run p some), isMeant with
    | some final, true => go { place with starts := final.starts, ends := final.ends }
    | none, false => go place
    | _, _ => none
  | committed p, go, place => (run p some place).bind go

/-- Whether some start of a text is as a pattern says. -/
def startsText (p : Pattern) (text : String) : Bool :=
  (p.run some ⟨[], symbols text.toList, [], []⟩).isSome

end Cosmac.Text.Pattern
