/-!
# Decompression

`inflate?` undoes the deflate method: a stream of blocks, each stored as it is or written in codes
of different lengths. A code is given by the lengths of its words alone (`Code.ofLengths?`); a
stream that ends too early, or that refers to what it has not written, is refused.
-/

namespace Intake.Zip

/-! ## Bits -/

/-- A place in a stream of bits, the least bit of a byte first. -/
structure BitReader where
  bytes : ByteArray
  position : Nat

namespace BitReader

/-- The next bit. -/
def bit? (r : BitReader) : Option (Nat × BitReader) :=
  match r.bytes[r.position / 8]? with
  | some byte => some ((byte.toNat >>> (r.position % 8)) % 2, { r with position := r.position + 1 })
  | none => none

/-- The number in the next bits, the least bit first. -/
def bits? : (n : Nat) → BitReader → Option (Nat × BitReader)
  | 0, r => some (0, r)
  | n + 1, r => do
    let (low, r) ← r.bit?
    let (high, r) ← bits? n r
    return (low + 2 * high, r)

/-- The reader at the next whole byte. -/
def align (r : BitReader) : BitReader := { r with position := (r.position + 7) / 8 * 8 }

/-- How many bits there are. -/
def size (r : BitReader) : Nat := 8 * r.bytes.size

end BitReader

/-! ## Codes -/

/-- The greatest length of a word. -/
def maxLength : Nat := 15

/-- A code: how many words there are of each length, and their symbols in order. -/
structure Code where
  counts : Array Nat
  symbols : Array Nat

namespace Code

/-- How many symbols have words of a length. -/
def countOf (lengths : List Nat) (n : Nat) : Nat := lengths.countP (· == n)

/-- What is left of the words of a length after those that are taken, from one length to the next;
there is nothing when more are taken than there are. -/
def leftOver? (lengths : List Nat) : (n : Nat) → Option Nat
  | 0 => some 1
  | n + 1 =>
    match leftOver? lengths n with
    | some left =>
      if countOf lengths (n + 1) ≤ 2 * left then some (2 * left - countOf lengths (n + 1)) else none
    | none => none

/-- The symbols with words of a length. -/
def symbolsOf (lengths : List Nat) (n : Nat) : List Nat :=
  lengths.zipIdx.filterMap fun (l, i) => if l == n then some i else none

/-- The code with words of the given lengths, by symbol; a length of zero means no word. Words may
be left over only when there is at most one symbol. -/
def ofLengths? (lengths : List Nat) : Option Code :=
  match leftOver? lengths maxLength with
  | none => none
  | some left =>
    if left ≠ 0 ∧ 1 < (lengths.filter (· ≠ 0)).length then none
    else
      let all := (List.range maxLength).map (· + 1)
      some ⟨(0 :: all.map (countOf lengths)).toArray, (all.flatMap (symbolsOf lengths)).toArray⟩

/-- Reads the rest of a word that has `n` bits so far. The word is `word` beyond the first word of
its length, whose symbol is the one at `index`. -/
def symbolFrom? (c : Code) : (fuel n word index : Nat) → BitReader → Option (Nat × BitReader)
  | 0, _, _, _, _ => none
  | fuel + 1, n, word, index, r => do
    let (b, r) ← r.bit?
    let word := 2 * word + b
    let count := c.counts.getD (n + 1) 0
    if word < count then
      let symbol ← c.symbols[index + word]?
      return (symbol, r)
    else symbolFrom? c fuel (n + 1) (word - count) (index + count) r

/-- Reads the symbol of the next word. -/
def symbol? (c : Code) (r : BitReader) : Option (Nat × BitReader) :=
  c.symbolFrom? maxLength 0 0 0 r

end Code

/-! ## Blocks -/

/-- The least length that a symbol stands for, and how many bits follow it. -/
def lengthBases : List (Nat × Nat) :=
  [(3, 0), (4, 0), (5, 0), (6, 0), (7, 0), (8, 0), (9, 0), (10, 0), (11, 1), (13, 1), (15, 1),
    (17, 1), (19, 2), (23, 2), (27, 2), (31, 2), (35, 3), (43, 3), (51, 3), (59, 3), (67, 4),
    (83, 4), (99, 4), (115, 4), (131, 5), (163, 5), (195, 5), (227, 5), (258, 0)]

/-- The least distance that a symbol stands for, and how many bits follow it. -/
def distanceBases : List (Nat × Nat) :=
  [(1, 0), (2, 0), (3, 0), (4, 0), (5, 1), (7, 1), (9, 2), (13, 2), (17, 3), (25, 3), (33, 4),
    (49, 4), (65, 5), (97, 5), (129, 6), (193, 6), (257, 7), (385, 7), (513, 8), (769, 8),
    (1025, 9), (1537, 9), (2049, 10), (3073, 10), (4097, 11), (6145, 11), (8193, 12), (12289, 12),
    (16385, 13), (24577, 13)]

/-- The number that a symbol stands for, with the bits that follow it. -/
def extended? (bases : List (Nat × Nat)) (symbol : Nat) (r : BitReader) :
    Option (Nat × BitReader) := do
  let (base, extra) ← bases[symbol]?
  let (more, r) ← r.bits? extra
  return (base + more, r)

/-- Appends bytes that have been written before, at a distance; they may overlap with themselves. -/
def copy (distance : Nat) : (length : Nat) → ByteArray → ByteArray
  | 0, out => out
  | length + 1, out => copy distance length (out.push ((out[out.size - distance]?).getD 0))

/-- Reads the rest of a block in codes. -/
def codedBlock? (literals distances : Code) : (fuel : Nat) → BitReader → ByteArray →
    Option (ByteArray × BitReader)
  | 0, _, _ => none
  | fuel + 1, r, out => do
    let (symbol, r) ← literals.symbol? r
    if symbol < 256 then codedBlock? literals distances fuel r (out.push (UInt8.ofNat symbol))
    else if symbol == 256 then return (out, r)
    else
      let (length, r) ← extended? lengthBases (symbol - 257) r
      let (symbol, r) ← distances.symbol? r
      let (distance, r) ← extended? distanceBases symbol r
      if out.size < distance then none
      else codedBlock? literals distances fuel r (copy distance length out)

/-- Reads a stored block. -/
def storedBlock? (r : BitReader) (out : ByteArray) : Option (ByteArray × BitReader) := do
  let (size, r) ← r.align.bits? 16
  let (check, r) ← r.bits? 16
  let start := r.position / 8
  if size + check ≠ 65535 ∨ r.bytes.size < start + size then none
  else return (out ++ r.bytes.extract start (start + size),
    { r with position := r.position + 8 * size })

/-- The lengths of the words of the fixed code for literals. -/
def fixedLiteralLengths : List Nat :=
  List.replicate 144 8 ++ List.replicate 112 9 ++ List.replicate 24 7 ++ List.replicate 8 8

/-- The lengths of the words of the fixed code for distances. -/
def fixedDistanceLengths : List Nat := List.replicate 30 5 ++ List.replicate 2 5

/-- The order in which the lengths of the code for lengths are written. -/
def lengthOrder : List Nat :=
  [16, 17, 18, 0, 8, 7, 9, 6, 10, 5, 11, 4, 12, 3, 13, 2, 14, 1, 15]

/-- Reads numbers of three bits. -/
def shortLengths? : (n : Nat) → BitReader → Option (List Nat × BitReader)
  | 0, r => some ([], r)
  | n + 1, r => do
    let (l, r) ← r.bits? 3
    let (ls, r) ← shortLengths? n r
    return (l :: ls, r)

/-- Reads the lengths of words, until there are `total`; those read come last first. -/
def codedLengths? (c : Code) (total : Nat) : (fuel : Nat) → List Nat → BitReader →
    Option (List Nat × BitReader)
  | 0, _, _ => none
  | fuel + 1, before, r =>
    if before.length == total then some (before.reverse, r)
    else if total < before.length then none
    else do
      let (symbol, r) ← c.symbol? r
      if symbol < 16 then codedLengths? c total fuel (symbol :: before) r
      else
        let (value, base, extra) ←
          match symbol, before with
          | 16, last :: _ => some (last, 3, 2)
          | 16, [] => none
          | 17, _ => some (0, 3, 3)
          | _, _ => some (0, 11, 7)
        let (more, r) ← r.bits? extra
        codedLengths? c total fuel (List.replicate (base + more) value ++ before) r

/-- Reads the codes of a block that brings its own. -/
def dynamicCodes? (r : BitReader) : Option ((Code × Code) × BitReader) := do
  let (a, r) ← r.bits? 5
  let (b, r) ← r.bits? 5
  let (n, r) ← r.bits? 4
  let literals := a + 257
  let distances := b + 1
  if 286 < literals ∨ 30 < distances then none
  else
    let (short, r) ← shortLengths? (n + 4) r
    let given := lengthOrder.zip short
    let lengths := (List.range 19).map fun i => (given.lookup i).getD 0
    let code ← Code.ofLengths? lengths
    let total := literals + distances
    let (all, r) ← codedLengths? code total (total + 1) [] r
    let literalCode ← Code.ofLengths? (all.take literals)
    let distanceCode ← Code.ofLengths? (all.drop literals)
    return ((literalCode, distanceCode), r)

/-- Reads one block, after the bit that says whether it is the last one. -/
def block? (r : BitReader) (out : ByteArray) : Option (ByteArray × BitReader) := do
  let (kind, r) ← r.bits? 2
  match kind with
  | 0 => storedBlock? r out
  | 1 => do
    let literals ← Code.ofLengths? fixedLiteralLengths
    let distances ← Code.ofLengths? fixedDistanceLengths
    codedBlock? literals distances (r.size + 1) r out
  | 2 => do
    let ((literals, distances), r) ← dynamicCodes? r
    codedBlock? literals distances (r.size + 1) r out
  | _ => none

/-- Reads blocks up to the last one. -/
def blocks? : (fuel : Nat) → BitReader → ByteArray → Option ByteArray
  | 0, _, _ => none
  | fuel + 1, r, out => do
    let (last, r) ← r.bit?
    let (out, r) ← block? r out
    if last == 1 then return out else blocks? fuel r out

/-- The bytes that a compressed stream stands for. What follows its end does not count. -/
def inflate? (b : ByteArray) : Option ByteArray :=
  blocks? (8 * b.size + 1) ⟨b, 0⟩ .empty

end Intake.Zip
