import Intake.Workbook.Fault
import Intake.Zip.Bytes
import Intake.Zip.Inflate
import Intake.Zip.Names

/-!
# Containers

A container is found from its end: a record there (`EndRecord`) says where the directory is, and
the directory lists the entries (`readDirectory?`). There may be other bytes before and after the
container. `entries?` is the directory of the last record that leads to one; of entries with the
same name the last counts, at the place of the first. `readEntry` gives the bytes of an entry, and
checks them against their checksum.
-/

namespace Intake.Zip

/-! ## The directory -/

/-- The signature of the record at the end. -/
def endSignature : Nat := 0x06054b50

/-- The signature of an entry in the directory. -/
def directorySignature : Nat := 0x02014b50

/-- The signature in front of the bytes of an entry. -/
def localSignature : Nat := 0x04034b50

/-- An entry as the directory lists it. -/
structure Entry where
  name : String
  flags : Nat
  method : Nat
  checksum : Nat
  compressedSize : Nat
  /-- Where the entry itself begins. -/
  place : Nat
  deriving DecidableEq, Repr

/-- The record at the end of a container. -/
structure EndRecord where
  /-- Where the record stands. -/
  place : Nat
  /-- How many entries the directory lists here. -/
  entryCount : Nat
  /-- How many entries there are in all parts of the container. -/
  totalCount : Nat
  /-- Where the directory begins, counted from the beginning of the container. -/
  directoryPlace : Nat
  deriving DecidableEq, Repr

/-- Reads the record at a place. Its comment has to end within the bytes, and a container of several
parts is not read. -/
def readEndRecord? (b : ByteArray) (place : Nat) : Option EndRecord := do
  if !hasSignature b endSignature place then none
  let disk ← natAt? b (place + 4) 2
  let directoryDisk ← natAt? b (place + 6) 2
  let count ← natAt? b (place + 8) 2
  let total ← natAt? b (place + 10) 2
  let directoryPlace ← natAt? b (place + 16) 4
  let commentSize ← natAt? b (place + 20) 2
  if b.size < place + 22 + commentSize ∨ disk ≠ directoryDisk then none
  else return ⟨place, count, total, directoryPlace⟩

/-- The first place from `place` on, among the next `count`, where the directory may begin. -/
def findDirectory? (b : ByteArray) : (count place : Nat) → Option Nat
  | 0, _ => none
  | count + 1, place =>
    if hasSignature b directorySignature place then some place
    else findDirectory? b count (place + 1)

/-- Reads entries of the directory. The container begins at `offset`. -/
def readDirectory? (b : ByteArray) (offset : Nat) : (count place : Nat) → Option (List Entry)
  | 0, _ => some []
  | count + 1, place => do
    if !hasSignature b directorySignature place then none
    let flags ← natAt? b (place + 8) 2
    let method ← natAt? b (place + 10) 2
    let checksum ← natAt? b (place + 16) 4
    let compressedSize ← natAt? b (place + 20) 4
    let nameSize ← natAt? b (place + 28) 2
    let extraSize ← natAt? b (place + 30) 2
    let commentSize ← natAt? b (place + 32) 2
    let entryPlace ← natAt? b (place + 42) 4
    let name ← slice? b (place + 46) nameSize
    let size := 46 + nameSize + extraSize + commentSize
    if b.size < place + size then none
    else
      let entry : Entry :=
        ⟨nameOf (flags / 2048 % 2 == 1) name, flags, method, checksum, compressedSize,
          offset + entryPlace⟩
      let rest ← readDirectory? b offset count (place + size)
      return entry :: rest

/-- The entries that a record leads to. -/
def entriesOf? (b : ByteArray) (r : EndRecord) : Option (List Entry) :=
  if r.totalCount = 0 then (if r.entryCount = 0 then some [] else none)
  else
    match findDirectory? b (r.place - r.directoryPlace) r.directoryPlace with
    | some place => readDirectory? b (place - r.directoryPlace) r.entryCount place
    | none => none

/-- The entries of the last record before a place that leads to a directory. -/
def entriesBefore? (b : ByteArray) : (place : Nat) → Option (List Entry)
  | 0 => none
  | place + 1 =>
    match (readEndRecord? b place).bind (entriesOf? b) with
    | some entries => some entries
    | none => entriesBefore? b place

/-- Puts an entry in place of one with the same name, or at the end. -/
def putEntry (e : Entry) : List Entry → List Entry
  | [] => [e]
  | first :: rest => if first.name == e.name then e :: rest else first :: putEntry e rest

/-- The entries of a container, no two with the same name. -/
def entries? (b : ByteArray) : Option (List Entry) :=
  (entriesBefore? b b.size).map fun entries => entries.foldl (fun es e => putEntry e es) []

/-! ## The entries -/

/-- Why the parts of a container cannot be had. -/
inductive ReadFault where
  /-- The container or one of its entries is not as it should be. -/
  | invalid (fault : WorkbookFault)
  /-- The bytes of an entry are damaged. -/
  | damaged
  deriving DecidableEq, Repr

/-- The bytes of an entry as they are stored; there may be fewer than announced. There are none
when the entry is encrypted, or not where it should be. -/
def storedBytes? (b : ByteArray) (e : Entry) : Option ByteArray := do
  if e.flags % 2 == 1 then none
  if !hasSignature b localSignature e.place then none
  let nameSize ← natAt? b (e.place + 26) 2
  let extraSize ← natAt? b (e.place + 28) 2
  let start := e.place + 30 + nameSize + extraSize
  return b.extract start (start + e.compressedSize)

/-- The bytes that are stored in a method: the outer option is none for an unknown method, the
inner one for damaged bytes. -/
def decompress? (method : Nat) (b : ByteArray) : Option (Option ByteArray) :=
  match method with
  | 0 => some (some b)
  | 8 => some (inflate? b)
  | _ => none

/-- Reads the entry at an index of the directory. -/
def readEntry (b : ByteArray) (index : Nat) (e : Entry) : Except ReadFault ByteArray :=
  match (storedBytes? b e).bind (decompress? e.method) with
  | none => .error (.invalid (.entryUnreadable index))
  | some none => .error .damaged
  | some (some bytes) =>
    if (crc32 bytes).toNat = e.checksum then .ok bytes else .error .damaged

/-- Reads entries in order, the first at an index. -/
def readEntries (b : ByteArray) : (index : Nat) → List Entry →
    Except ReadFault (List (String × ByteArray))
  | _, [] => .ok []
  | index, e :: rest => do
    let bytes ← readEntry b index e
    let others ← readEntries b (index + 1) rest
    return (e.name, bytes) :: others

/-- The entries of a container with their bytes. -/
def read (b : ByteArray) : Except ReadFault (List (String × ByteArray)) :=
  match entries? b with
  | some entries => readEntries b 0 entries
  | none => .error (.invalid .notContainer)

end Intake.Zip
