import Cosmac.Number.Numeral
import Cosmac.Text.Symbol

/-!
# UTF-8

`decodeUtf8` reads bytes as text and refuses the first byte that cannot be part of a character.
`encodeUtf8` writes text as bytes, and `encodeUtf8?` refuses the first surrogate without a partner,
which no bytes stand for.
-/

set_option autoImplicit false

namespace Cosmac.Text

/-! ### Reading -/

/-- Why bytes are not text. -/
inductive Utf8Flaw where
  /-- No character starts with this byte. -/
  | start
  /-- The character that was started does not continue with the byte after it. -/
  | continuation
  /-- The bytes end inside a character. -/
  | truncated
  deriving DecidableEq, Repr

/-- A place at which bytes are not text. -/
structure Utf8Error where
  /-- What is wrong. -/
  flaw : Utf8Flaw
  /-- The number of bytes before the faulty ones. -/
  position : Nat
  /-- The faulty bytes: those of the character up to the one that does not fit. -/
  bytes : List UInt8
  deriving DecidableEq, Repr

/-- The wording of an error. -/
def Utf8Error.message (e : Utf8Error) : String :=
  let reason := match e.flaw with
    | .start => "invalid start byte"
    | .continuation => "invalid continuation byte"
    | .truncated => "unexpected end of data"
  let place := match e.bytes with
    | [byte] => "byte 0x" ++ String.ofList (Numeral.byteChars byte) ++ " in position "
      ++ Numeral.decimal e.position
    | bytes => "bytes in position " ++ Numeral.decimal e.position ++ "-"
      ++ Numeral.decimal (e.position + bytes.length - 1 : Nat)
  "'utf-8' codec can't decode " ++ place ++ ": " ++ reason

/-- The number of bytes after a first byte, and the range of the second one. The bytes of surrogates
are those of characters only where `surrogates` allows it. -/
def followers? (surrogates : Bool) (first : Nat) : Option (Nat × Nat × Nat) :=
  if first < 0xC2 then none
  else if first < 0xE0 then some (1, 0x80, 0xBF)
  else if first = 0xE0 then some (2, 0xA0, 0xBF)
  else if first = 0xED then some (2, 0x80, if surrogates then 0xBF else 0x9F)
  else if first < 0xF0 then some (2, 0x80, 0xBF)
  else if first = 0xF0 then some (3, 0x90, 0xBF)
  else if first < 0xF4 then some (3, 0x80, 0xBF)
  else if first = 0xF4 then some (3, 0x80, 0x8F)
  else none

/-- How many of the bytes after a first one continue its character: as many as are demanded, the
first of them in the given range. -/
def continuing (demanded low high : Nat) : List UInt8 → Nat
  | [] => 0
  | byte :: rest =>
    if demanded = 0 then 0
    else if low ≤ byte.toNat ∧ byte.toNat ≤ high then continuing (demanded - 1) 0x80 0xBF rest + 1
    else 0

/-- The symbol of a first byte and the bytes that continue it. -/
def symbolOfBytes (first : Nat) (continuation : List UInt8) : Symbol :=
  let lead := first % Nat.pow 2 (6 - continuation.length)
  .ofCodePoint (continuation.foldl (fun value byte ↦ value * 64 + byte.toNat % 64) lead)

/-- Reads bytes as text, with the number of bytes already read. -/
def decodeUtf8From (surrogates : Bool) (position : Nat) :
    Nat → List UInt8 → Except Utf8Error (List Symbol)
  | 0, _ => .ok []
  | _ + 1, [] => .ok []
  | fuel + 1, first :: rest =>
    if first.toNat < 0x80 then do
      let symbols ← decodeUtf8From surrogates (position + 1) fuel rest
      return .char (Char.ofNat first.toNat) :: symbols
    else
      match followers? surrogates first.toNat with
      | none => .error ⟨.start, position, [first]⟩
      | some (demanded, low, high) =>
        let count := continuing demanded low high rest
        if count = demanded then do
          return symbolOfBytes first.toNat (rest.take count)
            :: (← decodeUtf8From surrogates (position + 1 + count) fuel (rest.drop count))
        else if rest.length = count then .error ⟨.truncated, position, first :: rest⟩
        else .error ⟨.continuation, position, first :: rest.take count⟩

/-- Reads bytes as text. -/
def decodeUtf8 (bytes : List UInt8) : Except Utf8Error (List Char) :=
  (decodeUtf8From false 0 bytes.length bytes).map spelled

/-- Reads bytes as text in which every faulty sequence becomes the replacement character. The fuel
bounds the number of faulty sequences. -/
def decodeLossily : Nat → List UInt8 → List Char
  | 0, _ => []
  | fuel + 1, bytes =>
    match decodeUtf8 bytes with
    | .ok cs => cs
    | .error e =>
      (decodeUtf8 (bytes.take e.position)).toOption.getD []
        ++ '\ufffd' :: decodeLossily fuel (bytes.drop (e.position + e.bytes.length))

/-! ### Writing -/

/-- The bytes of a symbol. A surrogate without a partner has none. -/
def Symbol.bytes : Symbol → List UInt8
  | char c => String.utf8EncodeChar c
  | surrogate _ => []

/-- The bytes of a text. -/
def encodeUtf8 (text : String) : Array UInt8 :=
  ((symbols text.toList).flatMap Symbol.bytes).toArray

/-- Surrogates without a partner that stand beside each other, which no bytes stand for. -/
structure SurrogateError where
  /-- The number of symbols before the surrogates. -/
  position : Nat
  /-- The first of the surrogates. -/
  first : Nat
  /-- The number of surrogates after the first. -/
  more : Nat
  deriving DecidableEq, Repr

/-- The wording of an error. -/
def SurrogateError.message (e : SurrogateError) : String :=
  let place :=
    if e.more = 0 then
      "character '\\u" ++ String.ofList ((Numeral.digits 16 e.first).map Numeral.digitCharLower)
        ++ "' in position " ++ Numeral.decimal e.position
    else
      "characters in position " ++ Numeral.decimal e.position ++ "-"
        ++ Numeral.decimal (e.position + e.more : Nat)
  "'utf-8' codec can't encode " ++ place ++ ": surrogates not allowed"

/-- The first surrogates that have no bytes, with the number of symbols already seen. A surrogate
that stands for a byte by itself has one. -/
def unencodable? (standsForByte : Nat → Bool) (position : Nat) :
    List Symbol → Option SurrogateError
  | [] => none
  | .surrogate unit :: rest =>
    if standsForByte unit then unencodable? standsForByte (position + 1) rest
    else some ⟨position, unit, (rest.takeWhile fun s ↦ s.surrogate?.isSome).length⟩
  | .char _ :: rest => unencodable? standsForByte (position + 1) rest

/-- The bytes of a text that has no surrogates without a partner. -/
def encodeUtf8? (text : String) : Except SurrogateError (Array UInt8) :=
  match unencodable? (fun _ ↦ false) 0 (symbols text.toList) with
  | some error => .error error
  | none => .ok (encodeUtf8 text)

/-! ### Lines -/

/-- A text whose lines end in any of the usual ways, with a line feed at the end of each. -/
def joinLines : List Char → List Char
  | '\r' :: '\n' :: rest => '\n' :: joinLines rest
  | '\r' :: rest => '\n' :: joinLines rest
  | c :: rest => c :: joinLines rest
  | [] => []

end Cosmac.Text
