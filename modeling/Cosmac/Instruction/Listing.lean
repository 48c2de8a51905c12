import Cosmac.Instruction.Mnemonic

/-!
# Listings

A listing shows a program image word by word, each with its address and its notation.
-/

set_option autoImplicit false

namespace Cosmac

/-- One word of a program image. -/
structure ListingEntry where
  /-- Where the word stands. -/
  address : Int
  /-- The word. -/
  word : Word
  deriving DecidableEq, Repr

/-- The notation of the word. -/
def ListingEntry.mnemonic (entry : ListingEntry) : String :=
  entry.word.mnemonic

/-- The line that shows an entry: address, word and notation. -/
def ListingEntry.line (entry : ListingEntry) : String :=
  "0x" ++ Numeral.hexadecimal 3 entry.address ++ ": " ++ Numeral.hexadecimal 4 entry.word.toNat
    ++ "  " ++ entry.mnemonic

/-- The words of an image from an address on. A last odd byte counts as a word padded with zero. -/
def listing (start : Int) : List UInt8 → List ListingEntry
  | high :: low :: rest => ⟨start, .ofBytes high low⟩ :: listing (start + 2) rest
  | [high] => [⟨start, .ofBytes high 0⟩]
  | [] => []

end Cosmac
