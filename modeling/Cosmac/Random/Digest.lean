/-!
# The digest of a text

The secure hash of 512 bits, SHA-512, which stretches a text of any length to a seed. Its constants
are not listed: they are the fractions of the roots of the first primes, and `rootFraction` computes
them. `Digest.ofBytes` gives the digest of a sequence of bytes.
-/

set_option autoImplicit false

namespace Cosmac

/-- A digest, or the state of hashing between two blocks. -/
abbrev Digest : Type := Vector UInt64 8

namespace Digest

/-! ### Constants -/

/-- The first primes, as many as there are rounds. -/
def primes : List Nat :=
  (List.range 410).filter fun n ↦
    2 ≤ n && (List.range n).all fun d ↦ d < 2 || n % d ≠ 0

/-- The greatest number below `2 ^ bits` whose power with the given degree is at most `n`, if its
bits are looked for from the highest down and those found so far are `found`. -/
def integerRoot (degree n : Nat) : Nat → Nat → Nat
  | 0, found => found
  | bits + 1, found =>
    let next := found + Nat.pow 2 bits
    integerRoot degree n bits (if Nat.pow next degree ≤ n then next else found)

/-- The first 64 bits of the fraction of a root of `n`. -/
def rootFraction (degree n : Nat) : UInt64 :=
  UInt64.ofNat (integerRoot degree (n * Nat.pow 2 (64 * degree)) 80 0)

/-- The constants of the rounds, from cube roots. -/
def roundConstants : List UInt64 :=
  primes.map (rootFraction 3)

/-- The state before the first block, from square roots. -/
def initial : Digest :=
  .ofFn fun i ↦ rootFraction 2 (primes.getD i.val 0)

/-! ### Rounds -/

/-- A word turned to the right. -/
def turn (word amount : UInt64) : UInt64 :=
  (word >>> amount) ||| (word <<< (64 - amount))

/-- The words of all rounds: those of the block, and then each one from four before it. -/
def schedule (block : Array UInt64) : Array UInt64 :=
  (List.range 64).foldl (fun words i ↦
    let early := words.getD (i + 1) 0
    let late := words.getD (i + 14) 0
    words.push (words.getD i 0 + (turn early 1 ^^^ turn early 8 ^^^ (early >>> 7))
      + words.getD (i + 9) 0 + (turn late 19 ^^^ turn late 61 ^^^ (late >>> 6)))) block

/-- One round with the sum of its word and its constant. -/
def round (state : Digest) (input : UInt64) : Digest :=
  let a := state.get 0
  let b := state.get 1
  let c := state.get 2
  let e := state.get 4
  let f := state.get 5
  let g := state.get 6
  let choice := (e &&& f) ^^^ (~~~e &&& g)
  let majority := (a &&& b) ^^^ (a &&& c) ^^^ (b &&& c)
  let first := state.get 7 + (turn e 14 ^^^ turn e 18 ^^^ turn e 41) + choice + input
  let second := (turn a 28 ^^^ turn a 34 ^^^ turn a 39) + majority
  #v[first + second, a, b, c, state.get 3 + first, e, f, g]

/-- Hashes a block of sixteen words. -/
def compress (state : Digest) (block : Array UInt64) : Digest :=
  let inputs := ((schedule block).toList.zip roundConstants).map fun (word, constant) ↦
    word + constant
  state.zipWith (· + ·) (inputs.foldl round state)

/-! ### Blocks -/

/-- The number that bytes spell, the highest byte first. -/
def numberOf (bytes : List UInt8) : Nat :=
  bytes.foldl (fun number byte ↦ number * 256 + byte.toNat) 0

/-- The lowest bytes of a number, the highest of them first. -/
def bytesOf (count number : Nat) : List UInt8 :=
  (List.range count).reverse.map fun place ↦ UInt8.ofNat (number / Nat.pow 256 place)

/-- The bytes with the mark, the zeros and the length in bits that complete the last block. -/
def padded (bytes : List UInt8) : List UInt8 :=
  let zeros := (239 - bytes.length % 128) % 128
  bytes ++ 0x80 :: List.replicate zeros 0 ++ bytesOf 16 (bytes.length * 8)

/-- The words that bytes spell, eight bytes to a word, at most a given number of them. -/
def wordsOf : Nat → List UInt8 → List UInt64
  | 0, _ => []
  | count + 1, bytes => UInt64.ofNat (numberOf (bytes.take 8)) :: wordsOf count (bytes.drop 8)

/-- Hashes a number of blocks. -/
def absorb (state : Digest) : Nat → List UInt8 → Digest
  | 0, _ => state
  | blocks + 1, bytes =>
    absorb (compress state (wordsOf 16 bytes).toArray) blocks (bytes.drop 128)

/-- The digest of a sequence of bytes. -/
def ofBytes (bytes : List UInt8) : Digest :=
  absorb initial ((padded bytes).length / 128) (padded bytes)

/-- The bytes of a digest. -/
def toBytes (digest : Digest) : List UInt8 :=
  digest.toList.flatMap fun word ↦ bytesOf 8 word.toNat

end Digest

end Cosmac
