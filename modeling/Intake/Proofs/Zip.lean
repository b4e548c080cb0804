import Intake.Zip.Write
import Mathlib.Data.List.Basic
import Mathlib.Tactic.Ring

/-!
# Containers are read as they are written

A container that has been written is read back with all of its parts (`read_write`). What is read
from a container are numbers of a few bytes and slices, at places that the sizes of what stands
before them give; `Stands` says that bytes stand at a place, and a header is a list of numbers with
their widths (`numbers`). The checksum of a part is never computed.
-/

namespace Intake.Zip

variable {b : ByteArray} {place width n : Nat} {xs ys : List UInt8}

/-! ## Bytes at a place -/

/-- Bytes that stand in others from a place on. -/
def Stands (b : ByteArray) (place : Nat) (xs : List UInt8) : Prop :=
  ∃ before after, b.data.toList = before ++ xs ++ after ∧ before.length = place

theorem getElem?_eq (b : ByteArray) (i : Nat) : b[i]? = b.data.toList[i]? := by
  rw [Array.getElem?_toList]
  rfl

theorem toList_eq (b : ByteArray) : b.toList = b.data.toList := by
  have hloop : ∀ i r, ByteArray.toList.loop b i r = r.reverse ++ b.data.toList.drop i := by
    intro i r
    induction i, r using ByteArray.toList.loop.induct b with
    | case1 i r hlt ih =>
      have hi : i < b.data.toList.length := by simpa using hlt
      have hget : b.get! i = b.data.toList[i] := by
        rw [Array.getElem_toList]
        exact getElem!_pos b.data i (by simpa using hlt)
      rw [ByteArray.toList.loop, if_pos hlt, ih, List.drop_eq_getElem_cons hi, hget]
      simp
    | case2 i r hge =>
      rw [ByteArray.toList.loop, if_neg hge, List.drop_eq_nil_of_le, List.append_nil]
      simpa using Nat.not_lt.1 hge
  rw [ByteArray.toList, hloop]
  simp

namespace Stands

theorem left (h : Stands b place (xs ++ ys)) : Stands b place xs := by
  obtain ⟨before, after, heq, hlength⟩ := h
  exact ⟨before, ys ++ after, by simp [heq], hlength⟩

theorem right (h : Stands b place (xs ++ ys)) : Stands b (place + xs.length) ys := by
  obtain ⟨before, after, heq, rfl⟩ := h
  exact ⟨before ++ xs, after, by simp [heq], by simp⟩

theorem size_le (h : Stands b place xs) : place + xs.length ≤ b.size := by
  obtain ⟨before, after, heq, rfl⟩ := h
  have hsize := congrArg List.length heq
  simp only [Array.length_toList, List.length_append] at hsize
  change b.size = _ at hsize
  omega

theorem getElem?_head {x : UInt8} (h : Stands b place (x :: xs)) : b[place]? = some x := by
  obtain ⟨before, after, heq, rfl⟩ := h
  simp [getElem?_eq, heq]

end Stands

@[simp] theorem length_toList (x : ByteArray) : x.data.toList.length = x.size := by simp

theorem extract_of_stands {x : ByteArray} (h : Stands b place x.data.toList) :
    b.extract place (place + x.size) = x := by
  obtain ⟨before, after, heq, rfl⟩ := h
  refine ByteArray.ext (Array.ext' ?_)
  have hsize : before.length + x.size - before.length = x.data.toList.length := by simp
  rw [ByteArray.data_extract, Array.toList_extract, heq, List.extract_eq_take_drop, hsize]
  simp

theorem slice?_of_stands {x : ByteArray} (h : Stands b place x.data.toList) :
    slice? b place x.size = some x := by
  have hsize := h.size_le
  rw [length_toList] at hsize
  rw [slice?, if_pos hsize, extract_of_stands h]

/-! ## Numbers -/

theorem natAt?_eq_some_succ_iff : natAt? b place (width + 1) = some n ↔
    ∃ byte rest, b[place]? = some byte ∧ natAt? b (place + 1) width = some rest ∧
      n = byte.toNat + 256 * rest := by
  rw [natAt?]
  cases b[place]? <;> cases natAt? b (place + 1) width <;> simp [eq_comm]

theorem length_bytesOfNat (width n : Nat) : (bytesOfNat width n).length = width := by
  induction width generalizing n with
  | zero => rfl
  | succ width ih => simp [bytesOfNat, ih]

theorem natAt?_bytesOfNat (h : Stands b place (bytesOfNat width n)) (hn : n < 256 ^ width) :
    natAt? b place width = some n := by
  induction width generalizing place n with
  | zero => simp_all [natAt?]
  | succ width ih =>
    have hlater : Stands b (place + 1) (bytesOfNat width (n / 256)) := by
      rw [bytesOfNat, ← List.singleton_append] at h
      exact h.right
    have hrest := ih hlater (Nat.div_lt_of_lt_mul (by rwa [pow_succ'] at hn))
    refine natAt?_eq_some_succ_iff.2 ⟨_, _, h.getElem?_head, hrest, ?_⟩
    rw [UInt8.toNat_ofNat', Nat.mod_mod]
    omega

/-- Numbers with their widths, one after another. -/
def numbers (fields : List (Nat × Nat)) : List UInt8 :=
  fields.flatMap fun f => bytesOfNat f.1 f.2

theorem length_numbers (fields : List (Nat × Nat)) :
    (numbers fields).length = (fields.map (·.1)).sum := by
  simp [numbers, length_bytesOfNat, List.length_flatMap]

/-- Numbers that are read one after another from a place on. -/
def ReadsAt (b : ByteArray) : (place : Nat) → (fields : List (Nat × Nat)) → Prop
  | _, [] => True
  | place, (width, n) :: rest => natAt? b place width = some n ∧ ReadsAt b (place + width) rest

/-- Numbers that are not too great for their widths are read as they stand. -/
theorem readsAt_of_stands {fields : List (Nat × Nat)} (h : Stands b place (numbers fields))
    (hfields : ∀ f ∈ fields, f.2 < 256 ^ f.1) : ReadsAt b place fields := by
  induction fields generalizing place with
  | nil => trivial
  | cons f rest ih =>
    obtain ⟨hf, hrest⟩ := List.forall_mem_cons.1 hfields
    rw [numbers, List.flatMap_cons] at h
    have hlater := h.right
    rw [length_bytesOfNat] at hlater
    exact ⟨natAt?_bytesOfNat h.left hf, ih hlater hrest⟩

/-! ## Names -/

/-- Text all of whose characters are bytes below 128. -/
def IsAscii (s : String) : Prop := ∀ c ∈ s.toList, c.toNat < 128

instance (s : String) : Decidable (IsAscii s) := List.decidableBAll _ s.toList

theorem decodeAfter_ascii {cs : List Char} (h : ∀ c ∈ cs, c.toNat < 128) :
    Text.decodeAfter none (cs.map fun c => UInt8.ofNat c.toNat) = cs := by
  induction cs with
  | nil => rfl
  | cons c cs ih =>
    obtain ⟨hc, hcs⟩ := List.forall_mem_cons.1 h
    have hbyte : (UInt8.ofNat c.toNat).toNat = c.toNat := by
      rw [UInt8.toNat_ofNat']
      omega
    have hbegin : Text.beginChar (UInt8.ofNat c.toNat) = some (.inl c) := by
      rw [Text.beginChar, if_pos (UInt8.lt_iff_toNat_lt.2 (by rw [hbyte]; exact hc)), hbyte,
        Char.ofNat_toNat]
    rw [List.map_cons, Text.decodeAfter]
    simp [hbegin, ih hcs]

/-- A name in ASCII is read as it is written. -/
theorem nameOf_toUTF8 {name : String} (h : IsAscii name) :
    nameOf true name.toUTF8 = name := by
  have hbytes : name.toUTF8.data.toList = name.toList.map fun c => UInt8.ofNat c.toNat := by
    rw [String.toUTF8_eq_toByteArray, ← String.utf8Encode_toList, List.utf8Encode,
      List.data_toByteArray, List.toList_toArray, List.map_eq_flatMap]
    refine List.flatMap_congr fun c hc => ?_
    have hle : c.val.toNat ≤ 127 := Nat.lt_succ_iff.1 (h c hc)
    unfold String.utf8EncodeChar
    exact if_pos hle
  rw [nameOf, if_pos rfl, Text.decodeLenient, toList_eq, hbytes, decodeAfter_ascii h,
    String.ofList_toList]

/-! ## Headers -/

/-- The numbers in front of a part. -/
def entryFields (name bytes : ByteArray) : List (Nat × Nat) :=
  [(4, localSignature), (2, 20), (2, writtenFlags), (2, 0), (2, 0), (2, 33),
    (4, (crc32 bytes).toNat), (4, bytes.size), (4, bytes.size), (2, name.size), (2, 0)]

/-- The numbers of a part in the directory. -/
def listingFields (name bytes : ByteArray) (place : Nat) : List (Nat × Nat) :=
  [(4, directorySignature), (2, 20), (2, 20), (2, writtenFlags), (2, 0), (2, 0), (2, 33),
    (4, (crc32 bytes).toNat), (4, bytes.size), (4, bytes.size), (2, name.size), (2, 0), (2, 0),
    (2, 0), (2, 0), (4, 0), (4, place)]

/-- The numbers at the end. -/
def endFields (count size place : Nat) : List (Nat × Nat) :=
  [(4, endSignature), (2, 0), (2, 0), (2, count), (2, count), (4, size), (4, place), (2, 0)]

theorem toList_writeEntry (name bytes : ByteArray) : (writeEntry name bytes).data.toList =
    numbers (entryFields name bytes) ++ (name.data.toList ++ bytes.data.toList) := by
  simp [writeEntry, commonHeader, numbers, entryFields]

theorem toList_writeListing (name bytes : ByteArray) (place : Nat) :
    (writeListing name bytes place).data.toList =
      numbers (listingFields name bytes place) ++ name.data.toList := by
  simp [writeListing, commonHeader, numbers, listingFields]

theorem toList_writeEndRecord (count size place : Nat) :
    (writeEndRecord count size place).data.toList = numbers (endFields count size place) := by
  simp [writeEndRecord, numbers, endFields]

/-- The entry of a part that is stored at a place. -/
def entryOf (name bytes : ByteArray) (place : Nat) : Entry :=
  ⟨nameOf true name, writtenFlags, 0, (crc32 bytes).toNat, bytes.size, place⟩

section

variable {name bytes : ByteArray}

theorem length_entryFields : (numbers (entryFields name bytes)).length = 30 := by
  simp [length_numbers, entryFields]

theorem length_listingFields : (numbers (listingFields name bytes place)).length = 46 := by
  simp [length_numbers, listingFields]

theorem size_writeEntry : (writeEntry name bytes).size = 30 + name.size + bytes.size := by
  rw [← length_toList, toList_writeEntry, List.length_append, List.length_append,
    length_entryFields, length_toList, length_toList, Nat.add_assoc]

theorem size_writeListing : (writeListing name bytes place).size = 46 + name.size := by
  rw [← length_toList, toList_writeListing, List.length_append, length_listingFields,
    length_toList]

theorem toNat_crc32_lt (bytes : ByteArray) : (crc32 bytes).toNat < 2 ^ 32 := (crc32 bytes).toNat_lt

theorem readEntry_entryOf (index : Nat) (h : Stands b place (writeEntry name bytes).data.toList)
    (hname : name.size < 2 ^ 16) (hsize : bytes.size < 2 ^ 32) :
    readEntry b index (entryOf name bytes place) = .ok bytes := by
  rw [toList_writeEntry] at h
  have hfields := readsAt_of_stands h.left (by
    simpa [entryFields, localSignature, writtenFlags] using ⟨toNat_crc32_lt bytes, hsize, hname⟩)
  simp only [ReadsAt, entryFields, Nat.add_assoc, Nat.reduceAdd] at hfields
  obtain ⟨hsignature, -, -, -, -, -, -, -, -, hnameSize, hextraSize, -⟩ := hfields
  have hbytes := h.right.right
  rw [length_entryFields, length_toList] at hbytes
  have hstored : storedBytes? b (entryOf name bytes place) = some bytes := by
    simp [storedBytes?, entryOf, hasSignature, hsignature, hnameSize, hextraSize, writtenFlags,
      extract_of_stands hbytes]
  rw [readEntry, hstored]
  simp [entryOf, decompress?]

theorem readDirectory?_succ {offset count place' : Nat}
    (h : Stands b place' (writeListing name bytes place).data.toList)
    (hname : name.size < 2 ^ 16) (hsize : bytes.size < 2 ^ 32) (hplace : place < 2 ^ 32) :
    readDirectory? b offset (count + 1) place' =
      (readDirectory? b offset count (place' + (46 + name.size))).map
        (entryOf name bytes (offset + place) :: ·) := by
  rw [toList_writeListing] at h
  have hfields := readsAt_of_stands h.left (by
    simpa [listingFields, directorySignature, writtenFlags] using
      ⟨toNat_crc32_lt bytes, hsize, hname, hplace⟩)
  simp only [ReadsAt, listingFields, Nat.add_assoc, Nat.reduceAdd] at hfields
  obtain ⟨hsignature, -, -, hflags, hmethod, -, -, hchecksum, hcompressed, -, hnameSize, hextraSize,
    hcommentSize, -, -, -, hentryPlace, -⟩ := hfields
  have hslice := h.right
  rw [length_listingFields] at hslice
  have hend : ¬ b.size < place' + (46 + name.size) := by
    have hle := hslice.size_le
    rw [length_toList] at hle
    omega
  have hutf8 : writtenFlags / 2048 % 2 == 1 := by decide
  simp [readDirectory?, hasSignature, hsignature, hflags, hmethod, hchecksum, hcompressed,
    hnameSize, hextraSize, hcommentSize, hentryPlace, slice?_of_stands hslice, hend, hutf8, entryOf,
    Option.map_eq_bind]

end

theorem size_writeEndRecord (count size place : Nat) :
    (writeEndRecord count size place).size = 22 := by
  rw [← length_toList, toList_writeEndRecord, length_numbers]
  simp [endFields]

theorem readEndRecord?_eq {count size directoryPlace : Nat}
    (h : Stands b place (writeEndRecord count size directoryPlace).data.toList)
    (hcount : count < 2 ^ 16) (hsize : size < 2 ^ 32) (hplace : directoryPlace < 2 ^ 32) :
    readEndRecord? b place = some ⟨place, count, count, directoryPlace⟩ := by
  rw [toList_writeEndRecord] at h
  have hfields := readsAt_of_stands h (by
    simpa [endFields, endSignature] using ⟨hcount, hsize, hplace⟩)
  simp only [ReadsAt, endFields, Nat.add_assoc, Nat.reduceAdd] at hfields
  have hend : ¬ b.size < place + 22 := by
    have hle := h.size_le
    rw [← toList_writeEndRecord, length_toList, size_writeEndRecord] at hle
    omega
  simp [readEndRecord?, hasSignature, hfields, hend]

/-- No record is so near to the end that there is no room for it. -/
theorem readEndRecord?_eq_none (h : b.size < place + 22) : readEndRecord? b place = none := by
  have hend : ∀ n, b.size < place + 22 + n := fun n => by omega
  simp [readEndRecord?, hend]

/-! ## Containers -/

/-- Parts that a container can hold. -/
structure Storable (parts : List (String × ByteArray)) : Prop where
  names : ∀ p ∈ parts, IsAscii p.1 ∧ p.1.toUTF8.size < 2 ^ 16
  nodup : (parts.map (·.1)).Nodup
  count : parts.length < 2 ^ 16
  size : (write parts).size < 2 ^ 32

theorem prefix_of_writeEntries {parts : List (String × ByteArray)}
    {entries directory entries' directory' : ByteArray}
    (h : writeEntries entries directory parts = (entries', directory')) :
    entries.data.toList <+: entries'.data.toList ∧
      directory.data.toList <+: directory'.data.toList := by
  induction parts generalizing entries directory with
  | nil => cases h; exact ⟨List.prefix_rfl, List.prefix_rfl⟩
  | cons part parts ih =>
    obtain ⟨hentries, hdirectory⟩ := ih h
    rw [ByteArray.data_append, Array.toList_append] at hentries hdirectory
    exact ⟨(List.prefix_append _ _).trans hentries, (List.prefix_append _ _).trans hdirectory⟩

theorem size_writeEntries {parts : List (String × ByteArray)}
    {entries directory entries' directory' : ByteArray}
    (h : writeEntries entries directory parts = (entries', directory')) :
    entries'.size + directory'.size = entries.size + directory.size +
      (parts.map fun p => 76 + 2 * p.1.toUTF8.size + p.2.size).sum := by
  induction parts generalizing entries directory with
  | nil => cases h; rfl
  | cons part parts ih =>
    obtain ⟨name, bytes⟩ := part
    rw [ih h, ByteArray.size_append, ByteArray.size_append, size_writeEntry, size_writeListing,
      List.map_cons, List.sum_cons]
    dsimp only
    omega

/-- A container has 22 bytes at its end, 76 for each part, and each name twice. -/
theorem size_write (parts : List (String × ByteArray)) : (write parts).size =
    (parts.map fun p => 76 + 2 * p.1.toUTF8.size + p.2.size).sum + 22 := by
  rcases hwritten : writeEntries .empty .empty parts with ⟨entries, directory⟩
  have hsizes := size_writeEntries hwritten
  rw [write, hwritten]
  simp only [ByteArray.size_append, size_writeEndRecord, hsizes]
  simp

/-- What is appended stands behind what was there before. -/
theorem Stands.appended {x y z : ByteArray} (h : Stands b place z.data.toList)
    (hprefix' : (x ++ y).data.toList <+: z.data.toList) :
    Stands b (place + x.size) y.data.toList := by
  obtain ⟨rest, hrest⟩ := hprefix'
  rw [← hrest, ByteArray.data_append, Array.toList_append, List.append_assoc] at h
  simpa using h.right.left

/-- The entries that are written are listed in the directory and read back. -/
theorem exists_listed_of_writeEntries {parts : List (String × ByteArray)}
    {entries directory entries' directory' : ByteArray}
    (h : writeEntries entries directory parts = (entries', directory'))
    (hnames : ∀ p ∈ parts, IsAscii p.1 ∧ p.1.toUTF8.size < 2 ^ 16)
    (hsize : b.size < 2 ^ 32) (hentries : Stands b 0 entries'.data.toList)
    (hdirectory : Stands b place directory'.data.toList) :
    ∃ listed, readDirectory? b 0 parts.length (place + directory.size) = some listed ∧
      listed.map (·.name) = parts.map (·.1) ∧
      ∀ index, readEntries b index listed = .ok parts := by
  induction parts generalizing entries directory with
  | nil => exact ⟨[], rfl, rfl, fun _ => rfl⟩
  | cons part parts ih =>
    obtain ⟨name, bytes⟩ := part
    obtain ⟨⟨hascii, hname⟩, hrest⟩ := List.forall_mem_cons.1 hnames
    have hwritten : writeEntries (entries ++ writeEntry name.toUTF8 bytes)
        (directory ++ writeListing name.toUTF8 bytes entries.size) parts =
          (entries', directory') := h
    obtain ⟨hbelow, hbelow'⟩ := prefix_of_writeEntries hwritten
    have hentry := hentries.appended hbelow
    have hlisting := hdirectory.appended hbelow'
    rw [Nat.zero_add] at hentry
    have hlarge := hentry.size_le
    rw [length_toList, size_writeEntry] at hlarge
    obtain ⟨listed, hlisted, hnames', hread⟩ := ih hwritten hrest
    refine ⟨entryOf name.toUTF8 bytes entries.size :: listed, ?_, ?_, fun index => ?_⟩
    · rw [ByteArray.size_append, size_writeListing, ← Nat.add_assoc] at hlisted
      rw [List.length_cons, readDirectory?_succ hlisting hname (by omega) (by omega), hlisted,
        Nat.zero_add, Option.map_some]
    · rw [List.map_cons, List.map_cons, hnames', entryOf, nameOf_toUTF8 hascii]
    · have hbytes := readEntry_entryOf index hentry hname (by omega)
      simp only [readEntries, hbytes, hread]
      rw [entryOf, nameOf_toUTF8 hascii]
      rfl

/-! ## Entries with different names -/

theorem putEntry_of_not_mem {e : Entry} {entries : List Entry}
    (h : e.name ∉ entries.map (·.name)) : putEntry e entries = entries ++ [e] := by
  induction entries with
  | nil => rfl
  | cons first rest ih =>
    rw [List.map_cons, List.mem_cons, not_or] at h
    simp [putEntry, Ne.symm h.1, ih h.2]

theorem foldl_putEntry {entries before : List Entry}
    (h : ((before ++ entries).map (·.name)).Nodup) :
    entries.foldl (fun es e => putEntry e es) before = before ++ entries := by
  induction entries generalizing before with
  | nil => simp
  | cons e entries ih =>
    have hnew : e.name ∉ before.map (·.name) := by
      intro hmem
      rw [List.map_append, List.nodup_append] at h
      exact h.2.2 _ hmem _ (by simp) rfl
    rw [List.foldl_cons, putEntry_of_not_mem hnew, ih (by simpa using h)]
    simp

/-! ## The end -/

theorem entriesBefore?_add (h : ∀ p, place ≤ p → readEndRecord? b p = none) (n : Nat) :
    entriesBefore? b (place + n) = entriesBefore? b place := by
  induction n with
  | zero => rfl
  | succ n ih => rw [← Nat.add_assoc, entriesBefore?, h _ (by omega), Option.bind_none, ih]

theorem findDirectory?_self {count : Nat} (hcount : count ≠ 0)
    (h : hasSignature b directorySignature place = true) :
    findDirectory? b count place = some place := by
  obtain ⟨count, rfl⟩ := Nat.exists_eq_succ_of_ne_zero hcount
  rw [findDirectory?, if_pos h]

theorem hasSignature_of_readDirectory? {offset count : Nat} {listed : List Entry}
    (h : readDirectory? b offset (count + 1) place = some listed) :
    hasSignature b directorySignature place = true := by
  by_contra hsignature
  simp [readDirectory?, hsignature] at h

theorem size_pos_of_writeEntries {part : String × ByteArray} {parts : List (String × ByteArray)}
    {entries directory entries' directory' : ByteArray}
    (h : writeEntries entries directory (part :: parts) = (entries', directory')) :
    0 < directory'.size := by
  obtain ⟨name, bytes⟩ := part
  have hwritten : writeEntries (entries ++ writeEntry name.toUTF8 bytes)
      (directory ++ writeListing name.toUTF8 bytes entries.size) parts =
        (entries', directory') := h
  have hlength := (prefix_of_writeEntries hwritten).2.length_le
  rw [length_toList, length_toList, ByteArray.size_append, size_writeListing] at hlength
  omega

theorem entriesOf?_of_listed {parts : List (String × ByteArray)} {entries directory : ByteArray}
    {listed : List Entry} (hwritten : writeEntries .empty .empty parts = (entries, directory))
    (hlisted : readDirectory? b 0 parts.length entries.size = some listed) :
    entriesOf? b ⟨entries.size + directory.size, parts.length, parts.length, entries.size⟩ =
      some listed := by
  cases parts with
  | nil => simpa [entriesOf?, readDirectory?] using hlisted
  | cons part parts =>
    have hpos := size_pos_of_writeEntries hwritten
    have hfind := findDirectory?_self (Nat.ne_of_gt hpos) (hasSignature_of_readDirectory? hlisted)
    simpa [entriesOf?, hfind] using hlisted

/-- A container is read as it has been written. -/
theorem read_write {parts : List (String × ByteArray)} (h : Storable parts) :
    read (write parts) = .ok parts := by
  rcases hwritten : writeEntries .empty .empty parts with ⟨entries, directory⟩
  have hwrite : (write parts).data.toList = entries.data.toList ++ (directory.data.toList ++
      (writeEndRecord parts.length directory.size entries.size).data.toList) := by
    simp [write, hwritten]
  have hstands : Stands (write parts) 0 (entries.data.toList ++ (directory.data.toList ++
      (writeEndRecord parts.length directory.size entries.size).data.toList)) :=
    ⟨[], [], by simp [hwrite], rfl⟩
  have hsize : (write parts).size = entries.size + directory.size + 22 := by
    rw [← length_toList, hwrite, List.length_append, List.length_append, length_toList,
      length_toList, length_toList, size_writeEndRecord, Nat.add_assoc]
  have hentries := hstands.left
  have hdirectory := hstands.right.left
  have hend := hstands.right.right
  rw [Nat.zero_add, length_toList] at hdirectory hend
  rw [length_toList] at hend
  have hsmall := h.size
  have hrecord := readEndRecord?_eq hend h.count (by omega) (by omega)
  obtain ⟨listed, hlisted, hnames, hread⟩ :=
    exists_listed_of_writeEntries hwritten h.names h.size hentries hdirectory
  have hfound := entriesOf?_of_listed hwritten hlisted
  have hbefore : entriesBefore? (write parts) (write parts).size = some listed := by
    have hlast : (write parts).size = entries.size + directory.size + 1 + 21 := by omega
    have hlater : ∀ p, entries.size + directory.size + 1 ≤ p →
        readEndRecord? (write parts) p = none :=
      fun p hp => readEndRecord?_eq_none (by omega)
    rw [hlast, entriesBefore?_add hlater, entriesBefore?, hrecord, Option.bind_some, hfound]
  have hdistinct : (listed.map (·.name)).Nodup := hnames ▸ h.nodup
  rw [read, entries?, hbefore, Option.map_some, foldl_putEntry (by simpa using hdistinct),
    List.nil_append]
  exact hread 0

end Intake.Zip
