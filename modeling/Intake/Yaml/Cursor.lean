import Intake.Yaml.Character

/-!
# Places in a YAML text

A text is read after its line breaks have been made one character each (`unifyBreaks?`); a
character that no YAML text may contain makes the whole unreadable. A `Cursor` is what is left of
the text, with the line and the column where it begins.
-/

namespace Intake.Yaml

/-- A character that may stand in a YAML text. -/
def isAllowed (c : Char) : Bool :=
  let n := c.toNat
  n == 0x09 || n == 0x0a || n == 0x0d || (0x20 ≤ n && n ≤ 0x7e) || n == 0x85 ||
    (0xa0 ≤ n && n != 0xfffe && n != 0xffff)

/-- The characters with line feeds for all breaks but the line and the paragraph separator. -/
def unifyBreaks : List Char → List Char
  | [] => []
  | '\r' :: '\n' :: cs => '\n' :: unifyBreaks cs
  | c :: cs => (if c == '\r' || c == '\u0085' then '\n' else c) :: unifyBreaks cs

/-- The characters of a text, its breaks unified, when all are allowed. -/
def readableChars? (s : String) : Option (List Char) :=
  if s.toList.all isAllowed then some (unifyBreaks s.toList) else none

/-- The rest of a text and the place where it begins. -/
structure Cursor where
  rest : List Char
  line : Nat
  column : Nat
  deriving Repr

namespace Cursor

/-- The beginning of a text. -/
def start (cs : List Char) : Cursor := ⟨cs, 0, 0⟩

/-- The next character. -/
def peek (c : Cursor) : Option Char := c.rest.head?

/-- The character at a distance. -/
def peekAt (c : Cursor) (n : Nat) : Option Char := c.rest[n]?

/-- The cursor after the next character. -/
def next (c : Cursor) : Cursor :=
  match c.rest with
  | [] => c
  | x :: rest => if isBreak x then ⟨rest, c.line + 1, 0⟩ else ⟨rest, c.line, c.column + 1⟩

/-- The cursor after a number of characters. -/
def skip : (n : Nat) → Cursor → Cursor
  | 0, c => c
  | n + 1, c => skip n c.next

/-- The cursor after all characters up to the first that does not satisfy `p`. -/
def dropWhile (p : Char → Bool) (c : Cursor) : Cursor :=
  c.skip (c.rest.takeWhile p).length

/-- The characters up to the first that does not satisfy `p`, and the cursor after them. -/
def takeWhile (p : Char → Bool) (c : Cursor) : List Char × Cursor :=
  (c.rest.takeWhile p, c.dropWhile p)

/-- Does a line begin here with the marker of a document? -/
def atMarker (c : Cursor) (mark : Char) : Bool :=
  c.column == 0 && c.rest.take 3 == [mark, mark, mark] && isBlankOrEnd (c.peekAt 3)

/-- Does a line begin here with one of the markers? -/
def atAnyMarker (c : Cursor) : Bool := c.atMarker '-' || c.atMarker '.'

/-- The cursor after blanks and a comment, when the line ends there; it is then on the next. -/
def endOfLine? (c : Cursor) : Option Cursor :=
  let c := c.dropWhile isSpaceOrTab
  let c := if c.peek == some '#' then c.dropWhile (!isBreak ·) else c
  match c.peek with
  | none => some c
  | some x => if isBreak x then some c.next else none

/-- The beginning of the next token: blanks, comments and breaks are skipped. Tabs count as blanks
where no line of a block can begin. The flag says whether a simple key may begin here; a break
outside of flow collections allows one. -/
def nextToken (inFlow : Bool) : (cs : List Char) → (line column : Nat) →
    (inComment keyAllowed : Bool) → Cursor × Bool
  | [], line, column, _, keyAllowed => (⟨[], line, column⟩, keyAllowed)
  | c :: cs, line, column, inComment, keyAllowed =>
    if isBreak c then nextToken inFlow cs (line + 1) 0 false (keyAllowed || !inFlow)
    else if inComment then nextToken inFlow cs line (column + 1) true keyAllowed
    else if c == ' ' || (c == '\t' && (inFlow || !keyAllowed)) ||
        (c == '\ufeff' && column == 0) then
      nextToken inFlow cs line (column + 1) false keyAllowed
    else if c == '#' then nextToken inFlow cs line (column + 1) true keyAllowed
    else (⟨c :: cs, line, column⟩, keyAllowed)

end Cursor

end Intake.Yaml
