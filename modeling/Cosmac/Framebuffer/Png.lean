import Cosmac.Framebuffer.Image
import Cosmac.Text.Base64

/-!
# PNG files

An image as the bytes of a PNG file. The pixels are stored as they are, three bytes each; nothing is
compressed.
-/

set_option autoImplicit false

namespace Cosmac.Image

namespace Png

/-! ### Checksums -/

/-- One bit of the cyclic redundancy check. -/
def crcBit (crc : UInt32) : UInt32 :=
  if crc &&& 1 = 1 then (crc >>> 1) ^^^ 0xEDB88320 else crc >>> 1

/-- One byte of the cyclic redundancy check. -/
def crcByte (crc : UInt32) (byte : UInt8) : UInt32 :=
  Nat.repeat crcBit 8 (crc ^^^ byte.toUInt32)

/-- The cyclic redundancy check of bytes. -/
def crc (bytes : List UInt8) : UInt32 :=
  bytes.foldl crcByte 0xFFFFFFFF ^^^ 0xFFFFFFFF

/-- The two sums of the checksum of a compressed stream. -/
def adlerByte (sums : Nat × Nat) (byte : UInt8) : Nat × Nat :=
  let first := (sums.1 + byte.toNat) % 65521
  (first, (sums.2 + first) % 65521)

/-- The checksum of a compressed stream. -/
def adler (bytes : List UInt8) : Nat :=
  let (first, second) := bytes.foldl adlerByte (1, 0)
  second * 65536 + first

/-! ### Layout -/

/-- A number as four bytes, the highest first. -/
def fourBytes (n : Nat) : List UInt8 :=
  [UInt8.ofNat (n / 16777216), UInt8.ofNat (n / 65536), UInt8.ofNat (n / 256), UInt8.ofNat n]

/-- A number as two bytes, the lowest first. -/
def twoBytes (n : Nat) : List UInt8 :=
  [UInt8.ofNat n, UInt8.ofNat (n / 256)]

/-- A chunk of a file: its length, its kind, its content and their checksum. -/
def chunk (kind : String) (content : List UInt8) : List UInt8 :=
  let checked := (kind.toList.map fun c ↦ UInt8.ofNat c.toNat) ++ content
  fourBytes content.length ++ checked ++ fourBytes (crc checked).toNat

/-- The blocks of a stream that is stored without compression, at most `count` of them. -/
def storedBlocks : Nat → List UInt8 → List UInt8
  | 0, _ => []
  | count + 1, bytes =>
    let block := bytes.take 65535
    let rest := bytes.drop 65535
    let size := block.length
    (if rest.isEmpty then 1 else 0) :: twoBytes size ++ twoBytes (65535 - size) ++ block
      ++ (if rest.isEmpty then [] else storedBlocks count rest)

/-- A stream that is stored without compression. -/
def stored (bytes : List UInt8) : List UInt8 :=
  [0x78, 0x01] ++ storedBlocks (bytes.length / 65535 + 1) bytes ++ fourBytes (adler bytes)

/-- A row of pixels, with the mark that it is stored as it is. -/
def scanline (row : List Color) : List UInt8 :=
  0 :: row.flatMap fun color ↦ [color.red, color.green, color.blue]

end Png

/-- The bytes of the PNG file of an image. -/
def png (image : Image) : List UInt8 :=
  [0x89, 0x50, 0x4E, 0x47, 0x0D, 0x0A, 0x1A, 0x0A]
    ++ Png.chunk "IHDR" (Png.fourBytes image.width ++ Png.fourBytes image.height
      ++ [8, 2, 0, 0, 0])
    ++ Png.chunk "IDAT" (Png.stored (image.rows.flatMap Png.scanline))
    ++ Png.chunk "IEND" []

/-- What stands before the comma in the address of an image that holds the image itself. -/
def addressPrefix : String := "data:image/png;base64"

/-- The address of an image that holds the image itself. -/
def address (image : Image) : String :=
  addressPrefix ++ "," ++ Text.base64 image.png

end Cosmac.Image
