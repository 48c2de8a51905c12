import Cosmac.Number.Numeral
import Cosmac.Text.Symbol

/-!
# Punycode

A text can be written in ASCII characters: those that it has, in their order, and then numbers that
tell where the others go. The others are inserted in ascending order, and each number is the
distance from one insertion to the next one, counted over all places and all characters between
them. The main definitions are `punycode`, which writes a text so, and `readPunycode`.
-/

set_option autoImplicit false

namespace Cosmac.Text.Punycode

/-! ### Numbers -/

/-- The character of a digit: a letter, or from twenty-six on a decimal digit. -/
def digitChar (digit : Nat) : Char :=
  if digit < 26 then Char.ofNat ('a'.toNat + digit) else Char.ofNat ('0'.toNat + (digit - 26))

/-- The least digit at a place after which the number goes on. -/
def threshold (bias place : Nat) : Nat :=
  min 26 (max 1 (place - bias))

theorem threshold_pos (bias place : Nat) : 0 < threshold bias place := by
  unfold threshold
  omega

/-- The digits of a number from a place on, the least significant first. -/
def digits (bias place number : Nat) : List Char :=
  let least := threshold bias place
  if number < least then [digitChar number]
  else
    let beyond := number - least
    digitChar (least + beyond % (36 - least)) :: digits bias (place + 36) (beyond / (36 - least))
termination_by number
decreasing_by
  have := threshold_pos bias place
  have := Nat.div_le_self (number - threshold bias place) (36 - threshold bias place)
  omega

/-- The bias for numbers like a given one, which `scaled` has made smaller. -/
def biasOf (place scaled : Nat) : Nat :=
  if 455 < scaled then biasOf (place + 36) (scaled / 35) else place + 36 * scaled / (scaled + 38)
termination_by scaled
decreasing_by omega

/-- The bias after a number, of which so many have been written. -/
def adapted (number written : Nat) (isFirst : Bool) : Nat :=
  let scaled := number / if isFirst then 700 else 2
  biasOf 0 (scaled + scaled / written)

/-! ### Insertions -/

/-- What has been written, and where the next insertion is counted from. -/
structure Progress where
  /-- The numbers so far. -/
  numbers : List Char
  /-- The distance from the last insertion. -/
  distance : Nat
  /-- The bias of the next number. -/
  bias : Nat
  /-- How many characters have been written or inserted. -/
  count : Nat
  /-- Whether nothing has been inserted. -/
  isFirst : Bool

namespace Progress

/-- Moves over a character of the text while those with a given code point are inserted. -/
def pass (point : Nat) (progress : Progress) (c : Char) : Progress :=
  if c.toNat < point then { progress with distance := progress.distance + 1 }
  else if c.toNat = point then
    let count := progress.count + 1
    { numbers := progress.numbers ++ digits progress.bias 36 progress.distance
      distance := 0
      bias := adapted progress.distance count progress.isFirst
      count := count
      isFirst := false }
  else progress

/-- Inserts the characters with the given code points, of which `next` is the least possible. -/
def insertAll (cs : List Char) (progress : Progress) (next : Nat) : List Nat → Progress
  | [] => progress
  | point :: points =>
    let skipped := (point - next) * (progress.count + 1)
    let done := cs.foldl (pass point) { progress with distance := progress.distance + skipped }
    insertAll cs { done with distance := done.distance + 1 } (point + 1) points

end Progress

end Punycode

open Punycode in
/-- The ASCII characters that stand for a text. -/
def punycode (cs : List Char) : List Char :=
  let basic := cs.filter fun c ↦ c.toNat < 0x80
  let others := ((cs.map Char.toNat).filter (0x80 ≤ ·)).eraseDups.mergeSort
  let progress := Progress.insertAll cs ⟨[], 0, 72, basic.length, true⟩ 0x80 others
  basic ++ (if basic.isEmpty then [] else ['-']) ++ progress.numbers

/-! ### Reading -/

/-- Why characters stand for no text. -/
inductive PunycodeError where
  /-- The last number goes on after the end. -/
  | incomplete
  /-- There is no character with that code point. -/
  | outOfRange (point : Nat)
  deriving DecidableEq, Repr

/-- The wording of an error. -/
def PunycodeError.message : PunycodeError → String
  | incomplete => "incomplete punicode string"
  | outOfRange point =>
    "Invalid character U+" ++ String.ofList ((Numeral.digits 16 point).map Numeral.digitCharLower)

namespace Punycode

/-- The digit that a letter in either case or a decimal digit stands for. -/
def digitOf (c : Char) : Nat :=
  if c.isDigit then c.toNat - '0'.toNat + 26 else c.toLower.toNat - 'a'.toNat

/-- The number whose digits from a place on stand at the start, and the rest. A digit counts as
often as `weight` says; `number` is what the digits before it are worth. -/
def readNumber? (bias place weight number : Nat) : List Char → Option (Nat × List Char)
  | [] => none
  | c :: rest =>
    let number := number + digitOf c * weight
    let least := threshold bias place
    if digitOf c < least then some (number, rest)
    else readNumber? bias (place + 36) (weight * (36 - least)) number rest

theorem length_readNumber? {bias place weight number result : Nat} {cs rest : List Char}
    (h : readNumber? bias place weight number cs = some (result, rest)) :
    rest.length < cs.length := by
  induction cs generalizing place weight number with
  | nil => simp [readNumber?] at h
  | cons c cs ih =>
    simp only [readNumber?] at h
    split at h
    · simp only [Option.some.injEq, Prod.mk.injEq] at h
      simp [h.2]
    · have := ih h
      simp only [List.length_cons]
      omega

/-- Inserts the characters that numbers tell. `place` is the first place, and `point` the least code
point, at which the next insertion can be. -/
def insertFrom (read : List Symbol) (point place bias : Nat) (isFirst : Bool) (cs : List Char) :
    Except PunycodeError (List Symbol) :=
  if cs.isEmpty then .ok read
  else
    match _h : readNumber? bias 36 1 0 cs with
    | none => .error .incomplete
    | some (distance, rest) =>
      let count := read.length + 1
      let point := point + (place + distance) / count
      let place := (place + distance) % count
      if 0x10FFFF < point then .error (.outOfRange point)
      else
        insertFrom (read.insertIdx place (.ofCodePoint point)) point (place + 1)
          (adapted distance count isFirst) false rest
termination_by cs.length
decreasing_by exact length_readNumber? _h

end Punycode

open Punycode in
/-- The text that ASCII characters stand for: those before the last hyphen, and among them those
that the numbers after it tell. -/
def readPunycode (cs : List Char) : Except PunycodeError (List Symbol) :=
  let numbers := (cs.reverse.takeWhile (· ≠ '-')).reverse
  let basic := cs.take (cs.length - numbers.length - 1)
  insertFrom (basic.map .char) 0x80 0 72 true numbers

end Cosmac.Text
