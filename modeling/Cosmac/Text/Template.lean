import Cosmac.Number.Numeral
import Cosmac.Text.Symbol

/-!
# Templates

A template is a text with places for values. A place is a percent sign, marks that say how the value
is to be written, and a letter for its kind; two percent signs are one in the text.
`Template.check` tells whether a template can be filled with a single whole number.
-/

set_option autoImplicit false

namespace Cosmac.Text

/-- Why a template cannot be filled. -/
inductive TemplateError where
  /-- The template ends within a place. -/
  | incomplete
  /-- A place asks for a value by its name. -/
  | named
  /-- There are more places than values. -/
  | tooFewValues
  /-- There is no place for the value. -/
  | tooManyValues
  /-- The value is no code point. -/
  | noCharacter
  /-- There is no kind of place with that letter, which stands at a number. -/
  | unknownKind (letter : Symbol) (index : Nat)
  /-- A width cannot be counted. -/
  | hugeWidth
  /-- A width does not fit into memory. -/
  | wideBeyondMemory
  /-- A precision cannot be counted. -/
  | hugePrecision
  /-- A precision is greater than those of whole numbers. -/
  | finePrecision
  deriving DecidableEq, Repr

/-- The wording of an error, where it has one. -/
def TemplateError.message? : TemplateError → Option String
  | incomplete => some "incomplete format"
  | unknownKind letter index =>
    let point := letter.codePoint
    let shown := if 31 ≤ point ∧ point < 127 then Char.ofNat point else '?'
    let hex := String.ofList ((Numeral.digits 16 point).map Numeral.digitCharLower)
    some ("unsupported format character '" ++ String.singleton shown ++ "' (0x" ++ hex
      ++ ") at index " ++ Numeral.decimal index)
  | hugeWidth => some "width too big"
  | wideBeyondMemory => some ""
  | hugePrecision => some "precision too big"
  | finePrecision => some "precision too large"
  | named | tooFewValues | tooManyValues | noCharacter => none

namespace Template

/-! ### Places -/

/-- A number that a place gives, or the value that it takes instead. -/
inductive Extent where
  | number (n : Nat)
  | value
  deriving DecidableEq, Repr

/-- The extent at the start of symbols, if there is one, and the rest. -/
def splitExtent (symbols : List Symbol) : Option Extent × List Symbol :=
  match symbols with
  | .char '*' :: rest => (some .value, rest)
  | _ =>
    let digit? : Symbol → Option Nat
      | .char c => if c.isDigit then some (c.toNat - '0'.toNat) else none
      | .surrogate _ => none
    let digits := (symbols.takeWhile fun symbol ↦ (digit? symbol).isSome).filterMap digit?
    if digits.isEmpty then (none, symbols)
    else (some (.number (digits.foldl (fun n digit ↦ n * 10 + digit) 0)),
      symbols.drop digits.length)

/-- Whether the value is still there after an extent, which must not exceed a limit. -/
def afterExtent (limit : Nat) (huge : TemplateError) (hasValue : Bool) :
    Option Extent → Except TemplateError Bool
  | some .value => if hasValue then .ok false else .error .tooFewValues
  | some (.number n) => if limit < n then .error huge else .ok hasValue
  | none => .ok hasValue

/-- Checks that a place of a kind can take the value. -/
def checkKind (value : Int) (width precision : Option Extent) (letter : Symbol) (index : Nat) :
    Except TemplateError Unit := do
  let exceeds (limit : Nat) : Option Extent → Bool
    | some (.number n) => limit < n
    | _ => false
  match letter with
  | .char c =>
    if "idouxX".toList.contains c then
      if exceeds (Nat.pow 2 31 - 4) precision then throw .finePrecision
    else if c = 'c' then
      if value < 0 ∨ 0x110000 ≤ value then throw .noCharacter
    else if !"sraeEfFgG".toList.contains c then throw (.unknownKind letter index)
  | .surrogate _ => throw (.unknownKind letter index)
  if exceeds (Nat.pow 2 40) width then throw .wideBeyondMemory

/-- Goes through the place after a percent sign. `indexOf` is the number at which the rest of a
template starts. The answer is whether the value is still there, and the rest. -/
def checkPlace (value : Int) (hasValue : Bool) (indexOf : List Symbol → Nat)
    (symbols : List Symbol) : Except TemplateError (Bool × List Symbol) := do
  if symbols.head? = some (.char '(') then throw .named
  let isFlag (symbol : Symbol) : Bool := ("-+ #0".toList.map Symbol.char).contains symbol
  let (width, symbols) := splitExtent (symbols.dropWhile isFlag)
  let hasValue ← afterExtent (Nat.pow 2 63 - 1) .hugeWidth hasValue width
  let (precision, symbols) :=
    match symbols with
    | .char '.' :: rest => splitExtent rest
    | _ => (none, symbols)
  let hasValue ← afterExtent (Nat.pow 2 31 - 1) .hugePrecision hasValue precision
  let symbols :=
    match symbols with
    | .char 'h' :: rest | .char 'l' :: rest | .char 'L' :: rest => rest
    | _ => symbols
  match symbols with
  | [] => throw .incomplete
  | letter :: rest =>
    if !hasValue then throw .tooFewValues
    checkKind value width precision letter (indexOf symbols)
    return (false, rest)

/-- Goes through symbols of a template. The fuel bounds the number of places. -/
def checkSymbols (value : Int) (indexOf : List Symbol → Nat) :
    Nat → Bool → List Symbol → Except TemplateError Unit
  | 0, _, _ => .ok ()
  | fuel + 1, hasValue, symbols =>
    match symbols.dropWhile (· ≠ .char '%') with
    | [] => if hasValue then .error .tooManyValues else .ok ()
    | _ :: .char '%' :: rest => checkSymbols value indexOf fuel hasValue rest
    | _ :: rest => do
      let (hasValue, rest) ← checkPlace value hasValue indexOf rest
      checkSymbols value indexOf fuel hasValue rest

/-- Tells why a template cannot be filled with a whole number, if it cannot. -/
def check (template : String) (value : Int) : Except TemplateError Unit :=
  let symbols := Text.symbols template.toList
  checkSymbols value (symbols.length - ·.length) (symbols.length + 1) true symbols

end Template

end Cosmac.Text
