/-!
# Bytes of containers

Numbers of two and four bytes, the least byte first (`natAt?`, `bytesOfNat`), the places where a
signature stands, and the checksum of a text of bytes (`crc32`).
-/

namespace Intake.Zip

/-- The number in `width` bytes from a place on, the least byte first. -/
def natAt? (b : ByteArray) (place : Nat) : (width : Nat) → Option Nat
  | 0 => some 0
  | width + 1 =>
    match b[place]?, natAt? b (place + 1) width with
    | some byte, some rest => some (byte.toNat + 256 * rest)
    | _, _ => none

/-- A number in `width` bytes, the least byte first. -/
def bytesOfNat : (width n : Nat) → List UInt8
  | 0, _ => []
  | width + 1, n => UInt8.ofNat (n % 256) :: bytesOfNat width (n / 256)

/-- The bytes from a place on, when there are so many. -/
def slice? (b : ByteArray) (place size : Nat) : Option ByteArray :=
  if place + size ≤ b.size then some (b.extract place (place + size)) else none

/-- Does a number of four bytes stand at a place? -/
def hasSignature (b : ByteArray) (signature place : Nat) : Bool :=
  natAt? b place 4 == some signature

/-- One step of the checksum's remainder. -/
def crcStep (crc : UInt32) : UInt32 :=
  if crc &&& 1 == 1 then (crc >>> 1) ^^^ 0xedb88320 else crc >>> 1

/-- The remainder after one more byte. -/
def crcByte (crc : UInt32) (byte : UInt8) : UInt32 :=
  let c := crc ^^^ byte.toUInt32
  crcStep (crcStep (crcStep (crcStep (crcStep (crcStep (crcStep (crcStep c)))))))

/-- The checksum of bytes. -/
def crc32 (b : ByteArray) : UInt32 :=
  (b.foldl crcByte 0xffffffff) ^^^ 0xffffffff

end Intake.Zip
