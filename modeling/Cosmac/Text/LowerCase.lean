import Cosmac.Text.CaseTable

/-!
# Lower case

`lowerCase` maps a text to lower case by the full Unicode rules: single characters by their table,
the dotted capital I to two characters, and the capital sigma by its place in the word.
-/

set_option autoImplicit false

namespace Cosmac.Text

/-- Whether a character is one of a run. -/
def CaseRun.holds (run : CaseRun) (c : Char) : Bool :=
  let (first, last, stride, _) := run
  first ≤ c.toNat && c.toNat ≤ last && (c.toNat - first) % stride == 0

/-- What a run maps a character of it to. -/
def CaseRun.apply (run : CaseRun) (c : Char) : Char :=
  Char.ofNat (c.toNat + run.2.2.2).toNat

/-- The lower-case form of one character, without regard to its neighbours. -/
def lowerChar (c : Char) : Char :=
  match lowerRuns.find? fun run ↦ run.holds c with
  | some run => run.apply c
  | none => c

/-- Whether the nearest character that casing context does not skip is a cased letter. -/
def nextIsCased (cs : List Char) : Bool :=
  (cs.dropWhile caseIgnorable.contains).head?.any casedLetters.contains

/-- The lower-case form of a character between the characters before it, nearest first, and those
after it. A capital sigma that ends a word becomes the final sigma. -/
def lowerBetween (before : List Char) (c : Char) (after : List Char) : List Char :=
  if c = 'İ' then ['i', '\u0307']
  else if c = 'Σ' then [if nextIsCased before && !nextIsCased after then 'ς' else 'σ']
  else [lowerChar c]

/-- The lower-case forms of characters that follow those in `before`, nearest first. -/
def lowerAfter (before : List Char) : List Char → List Char
  | [] => []
  | c :: after => lowerBetween before c after ++ lowerAfter (c :: before) after

/-- A text in lower case. -/
def lowerCase (text : String) : String :=
  String.ofList (lowerAfter [] text.toList)

end Cosmac.Text
