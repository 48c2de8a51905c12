import Cosmac.Instruction.Listing
import Cosmac.Proofs.Program.Loading

/-!
# Listings

The entries of a listing stand two bytes apart and take up the whole image (`listing_eq_map`): the
bytes of their words are the image, and one more byte if that is odd (`flatMap_bytes_listing`). A
machine that has been loaded with the image finds the same words at the addresses of the entries
(`Machine.fetch_of_mem_listing`), the last one padded with a zero of its memory.
-/

set_option autoImplicit false

namespace Cosmac

/-! ### Words -/

namespace Word

/-- The bytes of a word, the high one first. -/
def bytes (w : Word) : List UInt8 :=
  [UInt8.ofNat (w.toNat / 256), UInt8.ofNat (w.toNat % 256)]

theorem toNat_ofBytes (high low : UInt8) :
    (ofBytes high low).toNat = high.toNat * 256 + low.toNat := by
  have hhigh := high.toNat_lt
  have hlow := low.toNat_lt
  exact UInt16.toNat_ofNat_of_lt' (by simp only [UInt16.size]; omega)

theorem bytes_ofBytes (high low : UInt8) : (ofBytes high low).bytes = [high, low] := by
  have hlow := low.toNat_lt
  have hquotient : (high.toNat * 256 + low.toNat) / 256 = high.toNat := by omega
  have hrest : (high.toNat * 256 + low.toNat) % 256 = low.toNat := by omega
  rw [bytes, toNat_ofBytes, hquotient, hrest, UInt8.ofNat_toNat, UInt8.ofNat_toNat]

end Word

/-! ### Entries -/

/-- The entry of a listing with a given number. -/
def entryOf (start : Int) (bytes : List UInt8) (k : Nat) : ListingEntry :=
  ⟨start + (2 * k : Nat), .ofBytes (bytes.getD (2 * k) 0) (bytes.getD (2 * k + 1) 0)⟩

theorem entryOf_zero (start : Int) (bytes : List UInt8) :
    entryOf start bytes 0 = ⟨start, .ofBytes (bytes.getD 0 0) (bytes.getD 1 0)⟩ := by
  rw [entryOf, Nat.mul_zero, Int.natCast_zero, Int.add_zero]

theorem entryOf_cons_cons (start : Int) (high low : UInt8) (rest : List UInt8) (k : Nat) :
    entryOf start (high :: low :: rest) (k + 1) = entryOf (start + 2) rest k := by
  have haddress : start + (2 * (k + 1) : Nat) = start + 2 + (2 * k : Nat) := by omega
  rw [entryOf, haddress]
  rfl

/-- Every other byte begins an entry, whose word ends with the byte after it or with a zero. -/
theorem listing_eq_map (start : Int) (bytes : List UInt8) :
    listing start bytes = (List.range ((bytes.length + 1) / 2)).map (entryOf start bytes) := by
  induction start, bytes using listing.induct with
  | case1 start high low rest ih =>
    have hcount : ((high :: low :: rest).length + 1) / 2 = (rest.length + 1) / 2 + 1 := by
      simp only [List.length_cons]
      omega
    have hrest : (List.range ((rest.length + 1) / 2)).map (entryOf (start + 2) rest) =
        (List.range ((rest.length + 1) / 2)).map (entryOf start (high :: low :: rest) ∘ Nat.succ) :=
      List.map_congr_left fun k _ ↦ (entryOf_cons_cons start high low rest k).symm
    rw [hcount, List.range_succ_eq_map, List.map_cons, List.map_map, entryOf_zero, listing, ih,
      hrest]
    rfl
  | case2 start high =>
    rw [List.length_singleton, Nat.div_self (by decide), List.range_one, List.map_singleton,
      entryOf_zero, listing]
    rfl
  | case3 start => rfl

/-- The bytes of the words are the image, with a zero after it if its length is odd. -/
theorem flatMap_bytes_listing (start : Int) (bytes : List UInt8) :
    (listing start bytes).flatMap (fun entry ↦ entry.word.bytes) =
      bytes ++ List.replicate (bytes.length % 2) 0 := by
  induction start, bytes using listing.induct with
  | case1 start high low rest ih =>
    have hparity : (high :: low :: rest).length % 2 = rest.length % 2 := by
      simp only [List.length_cons]
      omega
    rw [listing, List.flatMap_cons, ih, Word.bytes_ofBytes, hparity]
    rfl
  | case2 start high =>
    rw [listing, List.flatMap_singleton, Word.bytes_ofBytes]
    rfl
  | case3 start => rfl

/-! ### Machines -/

/-- A machine that has been loaded with an image finds the words of the listing at the addresses of
its entries. -/
theorem Machine.fetch_of_mem_listing {m : Machine} {program : Program} {entry : ListingEntry}
    (hmemory : m.memory = initialMemory program) (hpc : m.pc = entry.address)
    (hentry : entry ∈ listing programStart program.bytes.toList) : m.fetch = entry.word := by
  rw [listing_eq_map] at hentry
  obtain ⟨k, hk, rfl⟩ := List.mem_map.mp hentry
  have hcount : 2 * k < program.bytes.size := by
    have hplace := List.mem_range.mp hk
    rw [Array.length_toList] at hplace
    omega
  have hfits : program.bytes.size ≤ 3584 := program.fits
  have hstart : m.pc = (programStart + 2 * k : Nat) :=
    hpc.trans (Int.natCast_add programStart (2 * k)).symm
  have hoffset : 2 * k + 1 < maxProgramSize := by
    simp only [maxProgramSize, memorySize, programStart]
    omega
  have hbyte (place : Nat) : program.bytes.getD place 0 = program.bytes.toList.getD place 0 := by
    rw [Array.getD_eq_getD_getElem?, List.getD_eq_getElem?_getD, Array.getElem?_toList]
  rw [fetch_initialMemory hmemory hstart hoffset, entryOf, hbyte, hbyte]

/-- The listing of any bytes from any address on. It has an entry for every two bytes, and one for
the last byte of an odd number. The entries stand two bytes apart from the start on, the bytes of
their words are the listed ones, once a last zero is cut off, and the notation is that of the word.
A machine that has been made with an image of at most 3584 bytes, or been loaded with it, fetches
the word of each entry of its listing where it stands, as microcode does. -/
theorem listing_faithful (start : Int) (bytes : List UInt8) :
    (listing start bytes).length = (bytes.length + 1) / 2 ∧
    (listing start bytes).map ListingEntry.address =
      (List.range ((bytes.length + 1) / 2)).map (fun k ↦ start + (2 * k : Nat)) ∧
    ((listing start bytes).flatMap fun entry ↦ entry.word.bytes).take bytes.length = bytes ∧
    (∀ entry ∈ listing start bytes, entry.mnemonic = entry.word.mnemonic) ∧
    ∀ image : Array UInt8, image.size ≤ 3584 →
      ∀ (m : Machine) (screen : Framebuffer) (keypad : Keypad) (source : ByteSource),
      ∃ fresh loaded, Machine.start image screen keypad source = .ok fresh ∧
        m.load image = .ok loaded ∧
        ∀ entry ∈ listing 0x200 image.toList, ∀ other ∈ [fresh, loaded],
          let there : Machine := { other with pc := entry.address }
          there.fetch = entry.word ∧ ∀ heard,
            Microcode.exec Microcode.fetch (there.cells heard) =
              (.ok (Microcode.fieldsOf entry.word), there.cells heard) := by
  refine ⟨?_, ?_, ?_, fun _ _ ↦ rfl, fun image hfits m screen keypad source ↦ ?_⟩
  · rw [listing_eq_map, List.length_map, List.length_range]
  · rw [listing_eq_map, List.map_map]
    rfl
  · rw [flatMap_bytes_listing, List.take_left]
  · have hstart : Machine.start image screen keypad source =
        .ok (.powerOn ⟨image, hfits⟩ screen keypad source) := by
      rw [Machine.start, Program.ofBytes_of_fits hfits]
    refine ⟨_, _, hstart, m.load_of_fits hfits, fun entry hentry other hother ↦ ?_⟩
    intro there
    have hmemory : there.memory = Machine.initialMemory ⟨image, hfits⟩ := by
      rcases List.mem_pair.mp hother with rfl | rfl <;> rfl
    have hfetch : there.fetch = entry.word := Machine.fetch_of_mem_listing hmemory rfl hentry
    exact ⟨hfetch, fun heard ↦ by rw [Microcode.exec_fetch, hfetch]⟩

/-- The last word of an odd image is padded with the zero that follows it in memory. -/
theorem listing_faithful_of_odd :
    let image : Array UInt8 := #[0x00, 0xE0, 0x12]
    listing 0x200 image.toList = [⟨0x200, 0x00E0⟩, ⟨0x202, 0x1200⟩] ∧
      ∃ fresh, Machine.start image .screen .idle .silent = .ok fresh ∧
        ({ fresh with pc := 0x202 } : Machine).fetch = 0x1200 := by
  intro image
  have hlisting : listing 0x200 image.toList = [⟨0x200, 0x00E0⟩, ⟨0x202, 0x1200⟩] := by decide
  obtain ⟨-, -, -, -, hmachine⟩ := listing_faithful 0x200 []
  obtain ⟨fresh, loaded, hfresh, -, hwords⟩ :=
    hmachine image (by decide) (.powerOn .empty .screen .idle .silent) .screen .idle .silent
  have hlast : (⟨0x202, 0x1200⟩ : ListingEntry) ∈ listing 0x200 image.toList := by
    rw [hlisting]
    exact List.mem_pair.mpr (.inr rfl)
  exact ⟨hlisting, fresh, hfresh, (hwords _ hlast fresh List.mem_cons_self).1⟩

end Cosmac
