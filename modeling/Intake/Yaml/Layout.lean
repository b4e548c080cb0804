import Intake.Yaml.Style
import Intake.Yaml.Value

/-!
# YAML texts

`Tree.write` lays a tree out in block style: one field a line, the fields of an inner record two
columns further in, the items of a list at the column of its key. Lines are never folded. A scalar
is written in the style of `Style.ofText`.
-/

namespace Intake.Yaml

/-- The text of a number in base sixteen, in upper case and with a least number of digits. -/
def hexText (width n : Nat) : List Char :=
  let ds := (Nat.toDigits 16 n).map Char.toUpper
  List.replicate (width - ds.length) '0' ++ ds

/-- The short escapes of double quotes. -/
def shortEscape? : Char → Option Char
  | '\x00' => some '0'
  | '\x07' => some 'a'
  | '\x08' => some 'b'
  | '\t' => some 't'
  | '\n' => some 'n'
  | '\x0b' => some 'v'
  | '\x0c' => some 'f'
  | '\r' => some 'r'
  | '\x1b' => some 'e'
  | '"' => some '"'
  | '\\' => some '\\'
  | '\u0085' => some 'N'
  | '\u2028' => some 'L'
  | '\u2029' => some 'P'
  | _ => none

/-- A character between double quotes. -/
def escape (c : Char) : List Char :=
  match shortEscape? c with
  | some e => ['\\', e]
  | none =>
    if isPrintable c then [c]
    else
      let n := c.toNat
      if n ≤ 0xff then '\\' :: 'x' :: hexText 2 n
      else if n ≤ 0xffff then '\\' :: 'u' :: hexText 4 n
      else '\\' :: 'U' :: hexText 8 n

/-- A text between double quotes. -/
def doubleQuote (cs : List Char) : List Char :=
  '"' :: cs.flatMap escape ++ ['"']

/-- The columns in front of a line. -/
def spaces (indent : Nat) : List Char := List.replicate indent ' '

/-- Text in which every line that has content is indented, when it follows a break or not. -/
def indentLines (indent : Nat) (write : Char → List Char) :
    (afterBreak : Bool) → List Char → List Char
  | _, [] => []
  | afterBreak, c :: cs =>
    if isBreak c then c :: indentLines indent write true cs
    else (if afterBreak then spaces indent else []) ++ write c ++ indentLines indent write false cs

/-- A text between single quotes: a quote is doubled, and lines after a break are indented. -/
def singleQuote (indent : Nat) (cs : List Char) : List Char :=
  '\'' :: indentLines indent (fun c => if c == '\'' then ['\'', '\''] else [c]) false cs ++
    (if cs.getLast?.any isBreak then spaces indent else []) ++ ['\'']

/-- What the header of a literal block says of the breaks at its end. -/
def chomping (cs : List Char) : List Char :=
  match cs.reverse with
  | [] => ['-']
  | last :: before =>
    if !isBreak last then ['-']
    else if before.isEmpty || before.head?.any isBreak then ['+']
    else []

/-- A literal block, with its header and without the break at its end. -/
def literalBlock (indent : Nat) (cs : List Char) : List Char :=
  let hint := if cs.head?.any fun c => c == ' ' || isBreak c then ['2'] else []
  '|' :: hint ++ chomping cs ++ '\n' :: indentLines indent (fun c => [c]) true cs

/-- The break that ends a scalar, unless it ends with one. -/
def endLine (cs : List Char) : List Char :=
  if cs.getLast?.any isBreak then cs else cs ++ ['\n']

/-- A text in a style; lines after the first are indented. -/
def scalar (style : Style) (indent : Nat) (s : String) : List Char :=
  match style with
  | .plain => s.toList
  | .singleQuoted => singleQuote indent s.toList
  | .doubleQuoted => doubleQuote s.toList
  | .literal => literalBlock indent s.toList

/-- The name of a field; it stays on one line. -/
def fieldName (s : String) : List Char :=
  let style := if s.toList.any isBreak then .doubleQuoted else Style.ofLine s
  scalar style 0 s

namespace Tree

/-- A text after the colon of a field or the dash of an item at an indentation. -/
def writeText (indent : Nat) (s : String) : List Char :=
  ' ' :: endLine (scalar (Style.ofText s) (indent + 2) s)

/-- A number after the colon of a field or the dash of an item. -/
def writeNumber (n : Nat) : List Char := ' ' :: endLine (Nat.toDigits 10 n)

/-- A list without items, on the line of its field. -/
def emptyList : List Char := " []\n".toList

/-- A record without fields, on the line of its field. -/
def emptyRecord : List Char := " \x7b\x7d\n".toList

mutual

/-- What follows the colon of a field at an indentation. -/
def writeValue (indent : Nat) : Tree → List Char
  | text s => writeText indent s
  | number n => writeNumber n
  | list items =>
    if items.isEmpty then emptyList else '\n' :: writeItems indent (spaces indent) items
  | record fields =>
    if fields.isEmpty then emptyRecord
    else '\n' :: writeFields (indent + 2) (spaces (indent + 2)) fields

/-- What follows the dash of an item: records and lists begin on the same line. -/
def writeItem (indent : Nat) : Tree → List Char
  | text s => writeText indent s
  | number n => writeNumber n
  | list items => if items.isEmpty then emptyList else ' ' :: writeItems (indent + 2) [] items
  | record fields =>
    if fields.isEmpty then emptyRecord else ' ' :: writeFields (indent + 2) [] fields

/-- The lines of the items of a list, with what stands before the first dash. -/
def writeItems (indent : Nat) (lead : List Char) : List Tree → List Char
  | [] => []
  | t :: rest => lead ++ '-' :: writeItem indent t ++ writeItems indent (spaces indent) rest

/-- The lines of the fields of a record, with what stands before the first name. -/
def writeFields (indent : Nat) (lead : List Char) : List (String × Tree) → List Char
  | [] => []
  | (name, t) :: rest =>
    lead ++ fieldName name ++ ':' :: writeValue indent t ++
      writeFields indent (spaces indent) rest

end

/-- The text of a document. -/
def write : Tree → String
  | record (field :: rest) => String.ofList (writeFields 0 [] (field :: rest))
  | list (item :: rest) => String.ofList (writeItems 0 [] (item :: rest))
  | t => String.ofList ((writeValue 0 t).drop 1)

end Tree

end Intake.Yaml
