import Cosmac.Random.Twister

/-!
# Sources of random bytes

A machine draws its random bytes from a source: a script that repeats for ever, or a seeded
generator. `ByteSource.draw` gives the next byte, and `ByteSource.byteAt` the byte of a given
number.
-/

set_option autoImplicit false

namespace Cosmac

/-- A source of bytes. -/
inductive ByteSource where
  /-- The bytes of a script, over and over. `position` counts the draws so far. An empty script
  gives zeros. -/
  | script (bytes : Array UInt8) (position : Nat)
  /-- The bytes of a generator. -/
  | generator (twister : Twister)

namespace ByteSource

/-- The source of a machine that was given neither a script nor a seed. -/
def silent : ByteSource :=
  script #[] 0

/-- Whether a source is a script without bytes. -/
def isEmptyScript : ByteSource → Bool
  | script bytes _ => bytes.isEmpty
  | generator _ => false

/-- Draws nine-bit numbers until one is a byte. The chance that a thousand draws do not suffice is
one in `2 ^ 1000`; then the byte is zero. -/
def drawNineBits : Nat → Twister → UInt8 × Twister
  | 0, twister => (0, twister)
  | draws + 1, twister =>
    let (word, twister) := twister.next
    let number := (word >>> 23).toNat
    if number < 256 then (UInt8.ofNat number, twister) else drawNineBits draws twister

/-- The next byte and the source after it. -/
def draw : ByteSource → UInt8 × ByteSource
  | script bytes position => (bytes.getD (position % bytes.size) 0, script bytes (position + 1))
  | generator twister =>
    let (byte, twister) := drawNineBits 1000 twister
    (byte, generator twister)

/-- The source after a number of draws. -/
def after (source : ByteSource) : Nat → ByteSource
  | 0 => source
  | draws + 1 => (source.after draws).draw.2

/-- The byte of a given number, counted from zero. -/
def byteAt (source : ByteSource) (number : Nat) : UInt8 :=
  (source.after number).draw.1

end ByteSource

end Cosmac
