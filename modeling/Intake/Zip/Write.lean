import Intake.Zip.Archive

/-!
# Writing containers

`write` makes a container of entries, each stored as it is under a name in UTF-8: first the entries
with their bytes, then the directory, then the record at the end.
-/

namespace Intake.Zip

/-- The flags of an entry that is written: its name is UTF-8. -/
def writtenFlags : Nat := 2048

/-- What an entry and its place in the directory have in common: version, flags, method, time and
date, checksum, the size twice, and the size of the name. -/
def commonHeader (name bytes : ByteArray) : List UInt8 :=
  bytesOfNat 2 20 ++ bytesOfNat 2 writtenFlags ++ bytesOfNat 2 0 ++ bytesOfNat 2 0 ++
    bytesOfNat 2 33 ++ bytesOfNat 4 (crc32 bytes).toNat ++ bytesOfNat 4 bytes.size ++
    bytesOfNat 4 bytes.size ++ bytesOfNat 2 name.size

/-- An entry with its bytes. -/
def writeEntry (name bytes : ByteArray) : ByteArray :=
  ⟨(bytesOfNat 4 localSignature ++ commonHeader name bytes ++ bytesOfNat 2 0).toArray⟩ ++ name ++
    bytes

/-- An entry of the directory. -/
def writeListing (name bytes : ByteArray) (place : Nat) : ByteArray :=
  ⟨(bytesOfNat 4 directorySignature ++ bytesOfNat 2 20 ++ commonHeader name bytes ++
    bytesOfNat 2 0 ++ bytesOfNat 2 0 ++ bytesOfNat 2 0 ++ bytesOfNat 2 0 ++ bytesOfNat 4 0 ++
    bytesOfNat 4 place).toArray⟩ ++ name

/-- The record at the end. -/
def writeEndRecord (count size place : Nat) : ByteArray :=
  ⟨(bytesOfNat 4 endSignature ++ bytesOfNat 2 0 ++ bytesOfNat 2 0 ++ bytesOfNat 2 count ++
    bytesOfNat 2 count ++ bytesOfNat 4 size ++ bytesOfNat 4 place ++ bytesOfNat 2 0).toArray⟩

/-- The entries and the directory, after those that have been written. -/
def writeEntries : (entries directory : ByteArray) → List (String × ByteArray) →
    ByteArray × ByteArray
  | entries, directory, [] => (entries, directory)
  | entries, directory, (name, bytes) :: rest =>
    writeEntries (entries ++ writeEntry name.toUTF8 bytes)
      (directory ++ writeListing name.toUTF8 bytes entries.size) rest

/-- A container of entries. -/
def write (parts : List (String × ByteArray)) : ByteArray :=
  let (entries, directory) := writeEntries .empty .empty parts
  entries ++ directory ++ writeEndRecord parts.length directory.size entries.size

end Intake.Zip
