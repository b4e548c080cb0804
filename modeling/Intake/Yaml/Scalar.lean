import Intake.Yaml.Cursor

/-!
# Reading scalars

How the three forms of a scalar are read: plain (`readPlain?`), between quotes (`readQuoted?`) and
as a block (`readBlock?`). Each is one pass over the characters. In the first two, blanks around a
line break are dropped, and a single break becomes a space (`Gap`); in a block the lines keep their
breaks, or are joined when the block is folded.
-/

namespace Intake.Yaml

/-! ## Gaps -/

/-- What stands between two words of a scalar, the last character first. -/
inductive Gap where
  /-- Blanks on one line. -/
  | blanks (cs : List Char)
  /-- Line breaks, at least one. -/
  | breaks (cs : List Char)
  /-- The line breaks after one that is escaped. -/
  | continued (cs : List Char)
  deriving Repr

namespace Gap

/-- Nothing between two characters. -/
def none : Gap := blanks []

/-- Is there a line break in the gap? -/
def isBroken : Gap → Bool
  | blanks _ => false
  | _ => true

/-- One more blank or break. Blanks count only as long as there is no break. -/
def push (c : Char) : Gap → Gap
  | blanks cs => if isBreak c then breaks [c] else blanks (c :: cs)
  | breaks cs => if isBreak c then breaks (c :: cs) else breaks cs
  | continued cs => if isBreak c then continued (c :: cs) else continued cs

/-- The text of the gap, the last character first: a break is a space when it is the only one, and
is dropped before others; a line or paragraph separator is kept. -/
def folded : Gap → List Char
  | blanks cs => cs
  | continued cs => cs
  | breaks cs =>
    match cs.getLast? with
    | some '\n' => if cs.length == 1 then [' '] else cs.dropLast
    | _ => cs

end Gap

/-! ## Plain scalars -/

/-- A plain scalar that has been read. -/
structure PlainScalar where
  text : String
  /-- Where the reading stopped: after the blanks and breaks behind the scalar. -/
  after : Cursor
  /-- Was the last thing read a line break? -/
  brokenOff : Bool

/-- Does a plain scalar end before a character, where the next one is given? -/
def endsPlain (inFlow : Bool) (c : Char) (next : Option Char) : Bool :=
  (c == ':' && isBlankOrEnd next) || (inFlow && c ∈ [',', '[', ']', '\x7b', '\x7d'])

/-- A colon that stands in a flow collection right before an indicator. -/
def misplacedColon (inFlow : Bool) (c : Char) (next : Option Char) : Bool :=
  inFlow && c == ':' && next.any (· ∈ [',', '?', '[', ']', '\x7b', '\x7d'])

/-- Reads a plain scalar. A later line has to be indented by `indent` columns outside of flow
collections. `word` says whether the character before was part of the scalar. -/
def readPlainFrom (inFlow : Bool) (indent : Nat) : (cs : List Char) → (line column : Nat) →
    (word : Bool) → (gap : Gap) → (read : List Char) → Option PlainScalar
  | [], line, column, _, gap, read =>
    some ⟨String.ofList read.reverse, ⟨[], line, column⟩, gap.isBroken⟩
  | c :: cs, line, column, word, gap, read =>
    let here : Cursor := ⟨c :: cs, line, column⟩
    let done := some (PlainScalar.mk (String.ofList read.reverse) here gap.isBroken)
    if isBreak c then readPlainFrom inFlow indent cs (line + 1) 0 false (gap.push c) read
    else if isSpaceOrTab c then
      if gap.isBroken && column < indent && c == '\t' then none
      else readPlainFrom inFlow indent cs line (column + 1) false (gap.push c) read
    else if !word && !read.isEmpty && !inFlow && column < indent then done
    else if !word && (here.atAnyMarker || c == '#') then done
    else if misplacedColon inFlow c cs.head? then none
    else if endsPlain inFlow c cs.head? then done
    else readPlainFrom inFlow indent cs line (column + 1) true .none (c :: (gap.folded ++ read))

/-- Reads a plain scalar at a place. -/
def readPlain? (inFlow : Bool) (indent : Nat) (c : Cursor) : Option PlainScalar :=
  readPlainFrom inFlow indent c.rest c.line c.column false .none []

/-! ## Quoted scalars -/

/-- The character of a short escape. -/
def unescape? : Char → Option Char
  | '0' => some '\x00'
  | 'a' => some '\x07'
  | 'b' => some '\x08'
  | 't' => some '\t'
  | '\t' => some '\t'
  | 'n' => some '\n'
  | 'v' => some '\x0b'
  | 'f' => some '\x0c'
  | 'r' => some '\r'
  | 'e' => some '\x1b'
  | ' ' => some ' '
  | '"' => some '"'
  | '/' => some '/'
  | '\\' => some '\\'
  | 'N' => some '\u0085'
  | '_' => some '\u00a0'
  | 'L' => some '\u2028'
  | 'P' => some '\u2029'
  | _ => none

/-- How many hexadecimal digits follow the letter of an escape. -/
def escapeDigits? : Char → Option Nat
  | 'x' => some 2
  | 'u' => some 4
  | 'U' => some 8
  | _ => none

/-- The value of a hexadecimal digit. -/
def hexDigit? (c : Char) : Option Nat :=
  if '0' ≤ c && c ≤ '9' then some (c.toNat - '0'.toNat)
  else if 'a' ≤ c && c ≤ 'f' then some (c.toNat - 'a'.toNat + 10)
  else if 'A' ≤ c && c ≤ 'F' then some (c.toNat - 'A'.toNat + 10)
  else none

/-- The character with a code point. -/
def charOf? (n : Nat) : Option Char :=
  if h : n.isValidChar then some (Char.ofNatAux n h) else none

/-- Reads up to the closing quote. An escape that is being read is given by the number of its
digits that are still to come, and by the value of those before. -/
def readQuotedFrom (single : Bool) : (cs : List Char) → (line column : Nat) →
    (escape : Option (Nat × Nat)) → (gap : Gap) → (read : List Char) → Option (String × Cursor)
  | [], _, _, _, _, _ => none
  | c :: cs, line, column, some (digits, value), gap, read =>
    match hexDigit? c with
    | none => none
    | some d =>
      let value := 16 * value + d
      if digits ≤ 1 then
        match charOf? value with
        | some x => readQuotedFrom single cs line (column + 1) none gap (x :: read)
        | none => none
      else readQuotedFrom single cs line (column + 1) (some (digits - 1, value)) gap read
  | '\'' :: cs, line, column, none, gap, read =>
    if single then
      match cs with
      | '\'' :: cs =>
        readQuotedFrom single cs line (column + 2) none .none ('\'' :: (gap.folded ++ read))
      | cs => some (String.ofList (gap.folded ++ read).reverse, ⟨cs, line, column + 1⟩)
    else readQuotedFrom single cs line (column + 1) none .none ('\'' :: (gap.folded ++ read))
  | '\\' :: e :: cs, line, column, none, gap, read =>
    let read := gap.folded ++ read
    if single then
      readQuotedFrom single (e :: cs) line (column + 1) none .none ('\\' :: read)
    else if isBreak e then readQuotedFrom single cs (line + 1) 0 none (.continued []) read
    else
      match unescape? e, escapeDigits? e with
      | some x, _ => readQuotedFrom single cs line (column + 2) none .none (x :: read)
      | none, some digits =>
        readQuotedFrom single cs line (column + 2) (some (digits, 0)) .none read
      | none, none => none
  | c :: cs, line, column, none, gap, read =>
    if (Cursor.mk (c :: cs) line column).atAnyMarker then none
    else if isBreak c then readQuotedFrom single cs (line + 1) 0 none (gap.push c) read
    else if isSpaceOrTab c then readQuotedFrom single cs line (column + 1) none (gap.push c) read
    else if c == '"' && !single then
      some (String.ofList (gap.folded ++ read).reverse, ⟨cs, line, column + 1⟩)
    else readQuotedFrom single cs line (column + 1) none .none (c :: (gap.folded ++ read))

/-- Reads a quoted scalar whose opening quote is next. -/
def readQuoted? (single : Bool) (c : Cursor) : Option (String × Cursor) :=
  readQuotedFrom single c.next.rest c.next.line c.next.column none .none []

/-! ## Block scalars -/

/-- What is done with the line breaks at the end of a block scalar. -/
inductive Chomping where
  | strip
  | clip
  | keep
  deriving DecidableEq, Repr

/-- The header of a block scalar. -/
structure BlockHeader where
  chomping : Chomping
  /-- The indentation of the lines against the block around them, when it is given. -/
  increment : Option Nat
  deriving Repr

/-- The chomping that a sign stands for. -/
def chomping? : Option Char → Option Chomping
  | some '+' => some .keep
  | some '-' => some .strip
  | _ => none

/-- The increment that a digit stands for. -/
def increment? (c? : Option Char) : Option Nat :=
  c?.bind fun c => if '0' ≤ c && c ≤ '9' then some (c.toNat - '0'.toNat) else none

/-- Reads the header after its indicator: a sign and a digit in any order, and the rest of the
line. An increment of zero is an error. -/
def readHeader? (c : Cursor) : Option (BlockHeader × Cursor) :=
  let (chomping, increment, c) :=
    match chomping? c.peek with
    | some chomping =>
      match increment? c.next.peek with
      | some n => (chomping, some n, c.next.next)
      | none => (chomping, none, c.next)
    | none =>
      match increment? c.peek with
      | some n =>
        match chomping? c.next.peek with
        | some chomping => (chomping, some n, c.next.next)
        | none => (.clip, some n, c.next)
      | none => (.clip, none, c)
  if increment == some 0 then none
  else c.endOfLine?.map fun c => (⟨chomping, increment⟩, c)

/-- The greatest column that blank lines at the beginning of a block reach, or that its first line
begins at. A tab in front of that line is an error. -/
def firstColumn? : (cs : List Char) → (column greatest : Nat) → Option Nat
  | [], column, greatest => some (max column greatest)
  | c :: cs, column, greatest =>
    let greatest := max column greatest
    if c == ' ' then firstColumn? cs (column + 1) greatest
    else if c == '\t' then none
    else if isBreak c then firstColumn? cs 0 greatest
    else some greatest

/-- The lines of a block scalar that have been read. -/
structure BlockText where
  /-- All before the last break, the last character first. -/
  read : List Char
  /-- The break that ends the last line. -/
  lastBreak : List Char
  /-- The breaks of blank lines after it, the last first. -/
  blankLines : List Char
  /-- Does the last line begin with a blank? -/
  beginsBlank : Bool

namespace BlockText

/-- The text before the first line. -/
def empty : BlockText := ⟨[], [], [], false⟩

/-- The text that a new line is appended to; in a folded block two lines that both begin with
something else than a blank are joined. -/
def beginLine (folds : Bool) (t : BlockText) (blank : Bool) : BlockText :=
  let joined := folds && t.lastBreak == ['\n'] && !t.beginsBlank && !blank
  let breaks :=
    if joined then (if t.blankLines.isEmpty then [' '] else t.blankLines)
    else t.blankLines ++ t.lastBreak
  ⟨breaks ++ t.read, [], [], blank⟩

/-- The whole text, with the breaks at the end that are kept. -/
def chomp (t : BlockText) : Chomping → String
  | .strip => String.ofList t.read.reverse
  | .clip => String.ofList (t.lastBreak ++ t.read).reverse
  | .keep => String.ofList (t.blankLines ++ (t.lastBreak ++ t.read)).reverse

end BlockText

/-- Reads the lines of a block that are indented by `indent` columns. `inLine` says whether a line
has begun. A tab among the blanks of the indentation is an error. -/
def readLines (folds : Bool) (indent : Nat) : (cs : List Char) → (line column : Nat) →
    (inLine : Bool) → (text : BlockText) → Option (BlockText × Cursor)
  | [], line, column, _, text => some (text, ⟨[], line, column⟩)
  | c :: cs, line, column, true, text =>
    if isBreak c then readLines folds indent cs (line + 1) 0 false { text with lastBreak := [c] }
    else readLines folds indent cs line (column + 1) true { text with read := c :: text.read }
  | c :: cs, line, column, false, text =>
    if c == ' ' && column < indent then readLines folds indent cs line (column + 1) false text
    else if c == '\t' && column < indent then none
    else if isBreak c then
      readLines folds indent cs (line + 1) 0 false { text with blankLines := c :: text.blankLines }
    else if column == indent then
      let begun := text.beginLine folds (isSpaceOrTab c)
      readLines folds indent cs line (column + 1) true { begun with read := c :: begun.read }
    else some (text, ⟨c :: cs, line, column⟩)

/-- Reads a block scalar whose indicator is next, in a block whose own column is given (none for
the document itself). -/
def readBlock? (folds : Bool) (parent : Option Nat) (c : Cursor) : Option (String × Cursor) := do
  let (header, c) ← readHeader? c.next
  let least := match parent with
    | some n => n + 1
    | none => 0
  let indent ← match header.increment with
    | some n => some (match parent with
      | some p => p + n
      | none => n)
    | none => (firstColumn? c.rest c.column 0).map fun n => max (max n least) 1
  let (text, after) ← readLines folds indent c.rest c.line c.column false .empty
  return (text.chomp header.chomping, after)

end Intake.Yaml
