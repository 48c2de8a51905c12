/-!
# The twister

The generator MT19937, which draws 32-bit words from 624 words of state. `Twister.ofSeed` starts it
from an integer of any size, and `Twister.next` gives the next word.
-/

set_option autoImplicit false

namespace Cosmac

/-- The words of state and how many of them have been used up. -/
structure Twister where
  /-- The state. -/
  words : Vector UInt32 624
  /-- The number of words given out since the state was last renewed. -/
  used : Nat

namespace Twister

/-- The place after a place, the first one after the last. -/
def after (i : Fin 624) (distance : Nat) : Fin 624 :=
  ⟨(i.val + distance) % 624, by omega⟩

/-- A word combined with its own high bits, the first part of every seeding step. -/
def fold (word : UInt32) : UInt32 :=
  word ^^^ (word >>> 30)

/-! ### Seeding -/

/-- The state grown from one word. -/
def grow (seed : UInt32) : Vector UInt32 624 :=
  ((List.finRange 624).drop 1).foldl
    (fun (words : Vector UInt32 624) (i : Fin 624) ↦
      words.set i (1812433253 * fold (words.get (after i 623)) + UInt32.ofNat i.val) i.isLt)
    (Vector.replicate 624 seed)

/-- The word that seeding with an array starts from. -/
def arraySeed : UInt32 := 19650218

/-- A place in the state while it is seeded. The first word always repeats the last one when the
place comes round. -/
def stepPlace (words : Vector UInt32 624) (i : Fin 624) : Vector UInt32 624 × Fin 624 :=
  if i.val = 623 then (words.set 0 (words.get 623) (by decide), 1) else (words, after i 1)

/-- Mixes the key into the state, a word of the key in each step. `j` is the place in the key. -/
def mixKey (key : Array UInt32) : Nat → Nat → Vector UInt32 624 → Fin 624 →
    Vector UInt32 624 × Fin 624
  | 0, _, words, i => (words, i)
  | steps + 1, j, words, i =>
    let mixed := (words.get i ^^^ (fold (words.get (after i 623)) * 1664525))
      + key.getD j 0 + UInt32.ofNat j
    let (words, i) := stepPlace (words.set i mixed i.isLt) i
    mixKey key steps (if j + 1 < key.size then j + 1 else 0) words i

/-- Mixes the places into the state. -/
def mixPlaces : Nat → Vector UInt32 624 → Fin 624 → Vector UInt32 624
  | 0, words, _ => words
  | steps + 1, words, i =>
    let mixed := (words.get i ^^^ (fold (words.get (after i 623)) * 1566083941))
      - UInt32.ofNat i.val
    let (words, i) := stepPlace (words.set i mixed i.isLt) i
    mixPlaces steps words i

/-- The generator seeded with the words of a key. -/
def ofKey (key : Array UInt32) : Twister :=
  let (words, i) := mixKey key (max 624 key.size) 0 (grow arraySeed) 1
  ⟨(mixPlaces 623 words i).set 0 0x80000000 (by decide), 624⟩

/-- The 32-bit words of a number, the lowest first, at least one. -/
def keyWords : Nat → Nat → List UInt32
  | 0, _ => []
  | fuel + 1, n =>
    UInt32.ofNat (n % 0x100000000)
      :: (if n / 0x100000000 = 0 then [] else keyWords fuel (n / 0x100000000))

/-- The generator seeded with an integer; its sign does not matter. -/
def ofSeed (seed : Int) : Twister :=
  ofKey (keyWords (seed.natAbs.log2 + 1) seed.natAbs).toArray

/-! ### Drawing -/

/-- A word of the new state from its neighbours in the old one. -/
def twist (words : Vector UInt32 624) (i : Fin 624) : UInt32 :=
  let joined := (words.get i &&& 0x80000000) ||| (words.get (after i 1) &&& 0x7fffffff)
  let twisted := words.get (after i 397) ^^^ (joined >>> 1)
  if joined &&& 1 = 1 then twisted ^^^ 0x9908b0df else twisted

/-- The next state, computed word by word. -/
def renew (words : Vector UInt32 624) : Vector UInt32 624 :=
  (List.finRange 624).foldl
    (fun (words : Vector UInt32 624) (i : Fin 624) ↦ words.set i (twist words i) i.isLt) words

/-- The output that a word of state gives. -/
def temper (word : UInt32) : UInt32 :=
  let a := word ^^^ (word >>> 11)
  let b := a ^^^ ((a <<< 7) &&& 0x9d2c5680)
  let c := b ^^^ ((b <<< 15) &&& 0xefc60000)
  c ^^^ (c >>> 18)

/-- The next word and the generator after it. -/
def next (t : Twister) : UInt32 × Twister :=
  if h : t.used < 624 then (temper (t.words.get ⟨t.used, h⟩), { t with used := t.used + 1 })
  else
    let words := renew t.words
    (temper (words.get 0), ⟨words, 1⟩)

end Twister

end Cosmac
