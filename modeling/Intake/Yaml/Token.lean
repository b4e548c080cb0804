import Intake.Yaml.Scalar

/-!
# Tokens of YAML

`tokens?` takes a text apart into tokens. Blocks are told apart by indentation: a token further to
the right begins a block, and one further to the left ends blocks (`Lexer.unroll`). A key without
an indicator of its own is known only when its colon comes; until then the place is remembered
(`PossibleKey`), and the key token is put in there afterwards. Such a key lies on one line and has
at most 1024 characters.
-/

namespace Intake.Yaml

/-- A token of a YAML text. -/
inductive Token where
  | versionDirective (major minor : Nat)
  | tagDirective (handle tagPrefix : String)
  | documentStart
  | documentEnd
  | blockListStart
  | blockMappingStart
  | blockEnd
  | flowListStart
  | flowListEnd
  | flowMappingStart
  | flowMappingEnd
  | blockEntry
  | flowEntry
  | key
  | value
  | aliasOf (name : String)
  | anchor (name : String)
  | tag (handle suffix : String)
  | scalar (isPlain : Bool) (text : String)
  deriving DecidableEq, Repr

/-- A place where a key may have begun. -/
structure PossibleKey where
  /-- Must a colon follow, because nothing else may stand here? -/
  required : Bool
  /-- How many tokens there are before it. -/
  position : Nat
  line : Nat
  column : Nat
  deriving Repr

/-- The state in which a text is taken apart. -/
structure Lexer where
  cursor : Cursor
  tokens : Array Token
  /-- The columns of the open blocks, the innermost first. -/
  blocks : List Nat
  /-- The possible keys of the open flow collections, the innermost first. -/
  flows : List (Option PossibleKey)
  /-- The possible key outside of all flow collections. -/
  blockKey : Option PossibleKey
  /-- May a key begin at the next token? -/
  keyAllowed : Bool

/-- A character of a name: an ASCII letter or digit, an underscore or a hyphen. -/
def isWordChar (c : Char) : Bool := c.isAlphanum || c == '_' || c == '-'

/-! ## Parts of tokens -/

/-- Reads the name behind `&` or `*`. -/
def readAnchorName? (c : Cursor) : Option (String × Cursor) :=
  let (name, c) := c.next.takeWhile isWordChar
  let ends := isBlankOrEnd c.peek ||
    c.peek.any (· ∈ ['?', ':', ',', ']', '\x7d', '%', '@', '\x60'])
  if name.isEmpty || !ends then none else some (String.ofList name, c)

/-- A character of the address in a tag; some only stand in a tag between angle brackets. -/
def isAddressChar (verbatim : Bool) (c : Char) : Bool :=
  isWordChar c ||
    c ∈ [';', '/', '?', ':', '@', '&', '=', '+', '$', '.', '%', '!', '~', '*', '\'', '(', ')'] ||
    (verbatim && c ∈ [',', '[', ']'])

/-- The bytes of an address in which some are escaped as `%` and two hexadecimal digits. -/
def unescapeAddress? : List Char → Option (List UInt8)
  | [] => some []
  | '%' :: a :: b :: cs =>
    match hexDigit? a, hexDigit? b, unescapeAddress? cs with
    | some x, some y, some bytes => some (UInt8.ofNat (16 * x + y) :: bytes)
    | _, _, _ => none
  | c :: cs =>
    if c == '%' then none
    else (unescapeAddress? cs).map fun bytes => UInt8.ofNat c.toNat :: bytes

/-- Reads an address; without an escape it may be empty only when `head` is not. -/
def readAddress? (verbatim : Bool) (head : String) (c : Cursor) : Option (String × Cursor) := do
  let (cs, c) := c.takeWhile (isAddressChar verbatim)
  if head.isEmpty && cs.isEmpty then none
  let bytes ← unescapeAddress? cs
  let text ← String.fromUTF8? ⟨bytes.toArray⟩
  return (String.ofList (head.toList.drop 1) ++ text, c)

/-- Reads what stands before the suffix of a tag: `!`, `!!`, `!name!` or `!name`. -/
def readHandle? (c : Cursor) : Option (String × Cursor) :=
  if c.peek != some '!' then none
  else
    let (name, c) := c.next.takeWhile isWordChar
    if c.peek == some '!' then some (String.ofList ('!' :: name ++ ['!']), c.next)
    else some (String.ofList ('!' :: name), c)

/-- Is it a handle that is closed by a second exclamation mark? -/
def isClosedHandle (handle : String) : Bool :=
  2 ≤ handle.toList.length && handle.toList.getLast? == some '!'

/-- Reads a tag. A tag without a closed handle has the handle `!`; a lone `!` is all suffix. -/
def readTag? (inFlow : Bool) (c : Cursor) : Option (Token × Cursor) := do
  let (token, c) ←
    if c.peekAt 1 == some '<' then do
      let (suffix, c) ← readAddress? true "" (c.skip 2)
      if c.peek == some '>' then some (Token.tag "" suffix, c.next) else none
    else do
      let (handle, c) ← readHandle? c
      if isClosedHandle handle then do
        let (suffix, c) ← readAddress? false "" c
        some (Token.tag handle suffix, c)
      else do
        let (suffix, c) ← readAddress? false handle c
        if suffix.isEmpty then some (Token.tag "" "!", c) else some (Token.tag "!" suffix, c)
  if isBlankOrEnd c.peek || (inFlow && c.peek == some ',') then some (token, c) else none

/-- Reads a number of a version, of at most nine digits. -/
def readVersionNumber? (c : Cursor) : Option (Nat × Cursor) :=
  let (ds, c) := c.takeWhile fun d => '0' ≤ d && d ≤ '9'
  if ds.isEmpty || 9 < ds.length then none
  else some (ds.foldl (fun n d => 10 * n + (d.toNat - '0'.toNat)) 0, c)

/-- Reads what follows `%YAML`. -/
def readVersion? (c : Cursor) : Option (Token × Cursor) := do
  let (major, c) ← readVersionNumber? (c.dropWhile isSpaceOrTab)
  if c.peek != some '.' then none
  let (minor, c) ← readVersionNumber? c.next
  return (.versionDirective major minor, c)

/-- Reads what follows `%TAG`. -/
def readTagDirective? (c : Cursor) : Option (Token × Cursor) := do
  let (handle, c) ← readHandle? (c.dropWhile isSpaceOrTab)
  if handle != "!" && !isClosedHandle handle then none
  if !c.peek.any isSpaceOrTab then none
  let (address, c) ← readAddress? true "" (c.dropWhile isSpaceOrTab)
  if isBlankOrEnd c.peek then some (.tagDirective handle address, c) else none

/-- Reads a directive and the rest of its line. -/
def readDirective? (c : Cursor) : Option (Token × Cursor) := do
  let (name, c) := c.next.takeWhile isWordChar
  if !isBlankOrEnd c.peek then none
  let (token, c) ←
    match String.ofList name with
    | "YAML" => readVersion? c
    | "TAG" => readTagDirective? c
    | _ => none
  let c ← c.endOfLine?
  return (token, c)

namespace Lexer

/-! ## Blocks and keys -/

/-- Is the text inside a flow collection? -/
def inFlow (l : Lexer) : Bool := !l.flows.isEmpty

/-- Appends a token. -/
def push (l : Lexer) (t : Token) : Lexer := { l with tokens := l.tokens.push t }

/-- Inserts a token before the one at a position. -/
def insert (l : Lexer) (position : Nat) (t : Token) : Lexer :=
  { l with tokens := l.tokens.take position ++ #[t] ++ l.tokens.drop position }

/-- The lexer with its cursor moved. -/
def moved (l : Lexer) (c : Cursor) : Lexer := { l with cursor := c }

/-- The possible key of the innermost collection. -/
def possibleKey (l : Lexer) : Option PossibleKey :=
  match l.flows with
  | [] => l.blockKey
  | k :: _ => k

/-- Sets the possible key of the innermost collection. -/
def setKey (l : Lexer) (k : Option PossibleKey) : Lexer :=
  match l.flows with
  | [] => { l with blockKey := k }
  | _ :: rest => { l with flows := k :: rest }

/-- How many tokens of the open blocks end when a token stands at a column; none inside of flow
collections. -/
def unrollBlocks (column : Nat) : List Nat → Nat × List Nat
  | [] => (0, [])
  | b :: rest =>
    if column < b then
      let (n, left) := unrollBlocks column rest
      (n + 1, left)
    else (0, b :: rest)

/-- Ends the blocks to the right of a column. -/
def unroll (l : Lexer) (column : Nat) : Lexer :=
  if l.inFlow then l
  else
    let (n, left) := unrollBlocks column l.blocks
    { l with blocks := left, tokens := l.tokens ++ Array.replicate n Token.blockEnd }

/-- Ends all blocks. -/
def unrollAll (l : Lexer) : Lexer :=
  if l.inFlow then l
  else { l with blocks := [], tokens := l.tokens ++ Array.replicate l.blocks.length Token.blockEnd }

/-- Is a column to the right of the innermost block? -/
def beginsBlock (l : Lexer) (column : Nat) : Bool :=
  !l.inFlow && (match l.blocks with
    | [] => true
    | b :: _ => b < column)

/-- Begins a block at a column to the right of the innermost one, with its token at a position. -/
def roll (l : Lexer) (column position : Nat) (t : Token) : Lexer :=
  if l.beginsBlock column then { l with blocks := column :: l.blocks }.insert position t else l

/-- A key that has gone out of reach: it is no key, and an error where one was required. -/
def staleKey? (here : Cursor) : Option PossibleKey → Option (Option PossibleKey)
  | none => some none
  | some k =>
    if k.line < here.line || k.column + 1024 < here.column then
      if k.required then none else some none
    else some (some k)

/-- Forgets the keys that have gone out of reach. -/
def dropStaleKeys? (l : Lexer) : Option Lexer := do
  let flows ← l.flows.mapM (staleKey? l.cursor)
  let blockKey ← staleKey? l.cursor l.blockKey
  return { l with flows := flows, blockKey := blockKey }

/-- Gives up the possible key; an error where one was required. -/
def dropKey? (l : Lexer) : Option Lexer :=
  match l.possibleKey with
  | some k => if k.required then none else some (l.setKey none)
  | none => some l

/-- Remembers that a key may begin here. -/
def saveKey? (l : Lexer) : Option Lexer :=
  if l.keyAllowed then do
    let l ← l.dropKey?
    let c := l.cursor
    let required := !l.inFlow && l.blocks.head? == some c.column
    return l.setKey (some ⟨required, l.tokens.size, c.line, c.column⟩)
  else some l

/-! ## One token -/

/-- A token of `n` characters, after which a key may begin or not. -/
def single (l : Lexer) (n : Nat) (keyAllowed : Bool) (t : Token) : Lexer :=
  { l.push t with cursor := l.cursor.skip n, keyAllowed := keyAllowed }

/-- A directive, or a marker of a document. -/
def documentToken? (l : Lexer) (read : Cursor → Option (Token × Cursor)) : Option Lexer := do
  let l ← l.unrollAll.dropKey?
  let (t, c) ← read l.cursor
  return { l.push t with cursor := c, keyAllowed := false }

/-- The beginning of a flow collection. -/
def flowStart? (l : Lexer) (t : Token) : Option Lexer := do
  let l ← l.saveKey?
  let l := l.single 1 true t
  return { l with flows := none :: l.flows }

/-- The end of a flow collection. -/
def flowEnd? (l : Lexer) (t : Token) : Option Lexer := do
  let l ← l.dropKey?
  return { l with flows := l.flows.drop 1 }.single 1 false t

/-- The dash of an item. -/
def listDash? (l : Lexer) : Option Lexer :=
  if !l.inFlow && !l.keyAllowed then none
  else do
    let l ← (l.roll l.cursor.column l.tokens.size .blockListStart).dropKey?
    return l.single 1 true .blockEntry

/-- The question mark of a key. -/
def keyIndicator? (l : Lexer) : Option Lexer :=
  if !l.inFlow && !l.keyAllowed then none
  else do
    let l ← (l.roll l.cursor.column l.tokens.size .blockMappingStart).dropKey?
    return l.single 1 (!l.inFlow) .key

/-- The colon before a value. When a key may have begun before it, it has. -/
def valueIndicator? (l : Lexer) : Option Lexer :=
  match l.possibleKey with
  | some k =>
    let l := (l.insert k.position .key).roll k.column k.position .blockMappingStart
    some ((l.setKey none).single 1 false .value)
  | none =>
    if !l.inFlow && !l.keyAllowed then none
    else some
      ((l.roll l.cursor.column l.tokens.size .blockMappingStart).single 1 (!l.inFlow) .value)

/-- A token that may be the beginning of a key. -/
def keyToken? (l : Lexer) (read : Cursor → Option (Token × Cursor)) : Option Lexer := do
  let l ← l.saveKey?
  let (t, c) ← read l.cursor
  return { l.push t with cursor := c, keyAllowed := false }

/-- A plain scalar. -/
def plainScalar? (l : Lexer) : Option Lexer := do
  let l ← l.saveKey?
  let indent := match l.blocks with
    | [] => 0
    | b :: _ => b + 1
  let s ← readPlain? l.inFlow indent l.cursor
  return { l.push (.scalar true s.text) with cursor := s.after, keyAllowed := s.brokenOff }

/-- A block scalar. -/
def blockScalar? (l : Lexer) (folds : Bool) : Option Lexer := do
  let l ← l.dropKey?
  let (s, c) ← readBlock? folds l.blocks.head? l.cursor
  return { l.push (.scalar false s) with cursor := c, keyAllowed := true }

/-- A quoted scalar. -/
def quotedScalar? (l : Lexer) (single : Bool) : Option Lexer :=
  l.keyToken? fun c => (readQuoted? single c).map fun (s, c) => (.scalar false s, c)

/-- The token that begins with a character, at the beginning of a token. -/
def token? (l : Lexer) (x : Char) : Option Lexer :=
  let c := l.cursor
  let alone := isBlankOrEnd (c.peekAt 1)
  if c.column == 0 && x == '%' then l.documentToken? readDirective?
  else if c.atMarker '-' then l.documentToken? fun c => some (.documentStart, c.skip 3)
  else if c.atMarker '.' then l.documentToken? fun c => some (.documentEnd, c.skip 3)
  else if x == '[' then l.flowStart? .flowListStart
  else if x == '\x7b' then l.flowStart? .flowMappingStart
  else if x == ']' then l.flowEnd? .flowListEnd
  else if x == '\x7d' then l.flowEnd? .flowMappingEnd
  else if x == ',' then l.dropKey?.map (·.single 1 true .flowEntry)
  else if x == '-' && alone then l.listDash?
  else if x == '?' && (l.inFlow || alone) then l.keyIndicator?
  else if x == ':' && (l.inFlow || alone) then l.valueIndicator?
  else if x == '*' then
    l.keyToken? fun c => (readAnchorName? c).map fun (name, c) => (.aliasOf name, c)
  else if x == '&' then
    l.keyToken? fun c => (readAnchorName? c).map fun (name, c) => (.anchor name, c)
  else if x == '!' then l.keyToken? (readTag? l.inFlow)
  else if x == '|' && !l.inFlow then l.blockScalar? false
  else if x == '>' && !l.inFlow then l.blockScalar? true
  else if x == '\'' then l.quotedScalar? true
  else if x == '"' then l.quotedScalar? false
  else if isSpaceOrTab x || isIndicator x then none
  else l.plainScalar?

/-- Moves to the next token and reads it; at the end of the text the remaining blocks are closed,
and the flag of the result says so. -/
def step? (l : Lexer) : Option (Lexer × Bool) := do
  let c := l.cursor
  let (c, keyAllowed) := Cursor.nextToken l.inFlow c.rest c.line c.column false l.keyAllowed
  let l ← { l with cursor := c, keyAllowed := keyAllowed }.dropStaleKeys?
  let l := l.unroll c.column
  match c.peek with
  | none =>
    let l ← l.unrollAll.dropKey?
    return (l, true)
  | some x =>
    let l ← l.token? x
    return (l, false)

/-- All tokens from a state on. Every step but the last reads a character. -/
def run? : (steps : Nat) → Lexer → Option (List Token)
  | 0, _ => none
  | steps + 1, l =>
    match l.step? with
    | none => none
    | some (l, true) => some l.tokens.toList
    | some (l, false) => run? steps l

end Lexer

/-- The tokens of a text. -/
def tokens? (s : String) : Option (List Token) :=
  (readableChars? s).bind fun cs =>
    Lexer.run? (cs.length + 1) ⟨.start cs, #[], [], [], none, true⟩

end Intake.Yaml
