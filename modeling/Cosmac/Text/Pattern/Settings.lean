import Cosmac.Text.Pattern.CharSet
import Cosmac.Text.Pattern.Token

/-!
# The notation of patterns: settings

Letters in a pattern change how it is read. `readChange?` reads a change of settings,
`Settings.after` makes it, and `readPrelude` reads the changes at the start, which hold for the
whole pattern.
-/

set_option autoImplicit false

namespace Cosmac.Text.Pattern

/-- How a pattern is read. -/
structure Settings where
  /-- How symbols are compared. -/
  mode : Mode
  /-- Whether lines have starts and ends of their own. -/
  hasLines : Bool := false
  /-- Whether the point stands for line feeds too. -/
  pointIsAny : Bool := false
  /-- Whether blanks and comments stand for nothing. -/
  isSpaced : Bool := false
  /-- Whether nothing can be repeated. -/
  isSimple : Bool := false
  deriving DecidableEq, Repr

/-- A change of settings. -/
structure Change where
  /-- The letters of what is set. -/
  added : List Char
  /-- The letters of what is no longer set. -/
  removed : List Char
  /-- Whether it holds from the start of the pattern on. -/
  isGlobal : Bool
  deriving DecidableEq, Repr

/-- The letters of settings. -/
def settingLetters : List Char :=
  ['i', 'L', 'm', 's', 'x', 'a', 't', 'u']

namespace Change

/-- Whether a change can be made. Letters are as in ASCII or as in Unicode, and not both; texts have
no local letters; and that nothing is repeated is said for the whole pattern. -/
def isPossible (change : Change) : Bool :=
  let ⟨added, removed, isGlobal⟩ := change
  !added.contains 'L' && !(added.contains 'a' && added.contains 'u')
    && (isGlobal || !added.contains 't') && !removed.any ['a', 'u', 'L', 't'].contains
    && !added.any removed.contains

end Change

/-- The letters of settings that tokens start with, and the rest. -/
def lettersOf : List Token → List Char × List Token
  | .sign c :: ts =>
    if settingLetters.contains c then (lettersOf ts).map (c :: ·) id else ([], .sign c :: ts)
  | ts => ([], ts)

/-- Reads a change of settings from after the question mark. -/
def readChange? (ts : List Token) : Option (Change × List Token) :=
  let found : Option (Change × List Token) := match lettersOf ts with
    | (added, .sign '-' :: ts) =>
      match lettersOf ts with
      | (c :: removed, .sign ':' :: rest) => some (⟨added, c :: removed, false⟩, rest)
      | _ => none
    | (c :: added, .sign ':' :: rest) => some (⟨c :: added, [], false⟩, rest)
    | (c :: added, .sign ')' :: rest) => some (⟨c :: added, [], true⟩, rest)
    | _ => none
  found.filter (·.1.isPossible)

namespace Settings

/-- The settings after a change. -/
def after (settings : Settings) (change : Change) : Settings :=
  let changed (letter : Char) (value : Bool) : Bool :=
    (value || change.added.contains letter) && !change.removed.contains letter
  { mode :=
      { ignoresCase := changed 'i' settings.mode.ignoresCase
        isAscii := changed 'a' settings.mode.isAscii && !change.added.contains 'u' }
    hasLines := changed 'm' settings.hasLines
    pointIsAny := changed 's' settings.pointIsAny
    isSpaced := changed 'x' settings.isSpaced
    isSimple := changed 't' settings.isSimple }

end Settings

/-! ### Comments -/

/-- The tokens after a comment that a parenthesis closes. -/
def afterComment? (ts : List Token) : Option (List Token) :=
  match ts.dropWhile (· ≠ .sign ')') with
  | _ :: rest => some rest
  | [] => none

/-- The tokens after a comment that goes to the end of the line. -/
def afterLine (ts : List Token) : List Token :=
  let isLast (t : Token) : Bool := t = .sign '\n' || t = .dangling
  match ts.dropWhile (!isLast ·) with
  | .sign _ :: rest => rest
  | rest => rest

/-- The tokens after a blank or a comment from a number sign on, if one of them comes first. -/
def afterSpace? : List Token → Option (List Token)
  | .sign '#' :: ts => some (afterLine ts)
  | t :: ts => if t.isAmong [' ', '\t', '\n', '\r', '\x0b', '\x0c'] then some ts else none
  | [] => none

/-- Reads the changes of settings at the start of a pattern, among comments, onto the letters of
those before them. The fuel bounds the number of changes and comments. -/
def readPrelude : Nat → Settings → List Char → List Token → Settings × List Char × List Token
  | 0, settings, letters, ts => (settings, letters, ts)
  | fuel + 1, settings, letters, ts =>
    match ts, if settings.isSpaced then afterSpace? ts else none with
    | _, some rest => readPrelude fuel settings letters rest
    | .sign '(' :: .sign '?' :: .sign '#' :: rest, none =>
      match afterComment? rest with
      | some rest => readPrelude fuel settings letters rest
      | none => (settings, letters, ts)
    | .sign '(' :: .sign '?' :: rest, none =>
      match (readChange? rest).filter (·.1.isGlobal) with
      | some (change, rest) =>
        readPrelude fuel (settings.after change) (change.added ++ letters) rest
      | none => (settings, letters, ts)
    | _, none => (settings, letters, ts)

end Cosmac.Text.Pattern
