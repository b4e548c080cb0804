import Intake.Numeric.Power
import Intake.Xml.Character

/-!
# Character data

How the characters of a document become the text of a node (`decodeText?`) or the value of an
attribute (`decodeAttribute?`): references are resolved, line ends become line feeds in a text, and
all white space becomes spaces in an attribute. A carriage return that a reference names is kept.
There are no entities but the five of XML itself.
-/

namespace Intake.Xml

/-- The number that digits spell in a base. -/
def numberIn (base : Nat) (digit? : Char → Option Nat) : (value : Nat) → List Char → Option Nat
  | value, [] => some value
  | value, c :: cs =>
    match digit? c with
    | some d => numberIn base digit? (base * value + d) cs
    | none => none

/-- The value of a decimal digit. -/
def decimalDigit? (c : Char) : Option Nat :=
  if '0' ≤ c && c ≤ '9' then some (c.toNat - '0'.toNat) else none

/-- The value of a hexadecimal digit. -/
def hexadecimalDigit? (c : Char) : Option Nat :=
  if 'a' ≤ c && c ≤ 'f' then some (c.toNat - 'a'.toNat + 10)
  else if 'A' ≤ c && c ≤ 'F' then some (c.toNat - 'A'.toNat + 10)
  else decimalDigit? c

/-- The character with a code point; the replacement character when there is none. A number of more
than 32 bits, and a character that a document may not contain, cannot be referred to. -/
def charOfCode? (n : Nat) : Option Char :=
  if n < twoPow 32 then
    (some (if h : n.isValidChar then Char.ofNatAux n h else '\ufffd')).filter isAllowed
  else none

/-- The character of a reference by number, without `&#` and the semicolon. -/
def charOfNumber? : List Char → Option Char
  | [] => none
  | 'x' :: ds => if ds.isEmpty then none else (numberIn 16 hexadecimalDigit? 0 ds).bind charOfCode?
  | ds => (numberIn 10 decimalDigit? 0 ds).bind charOfCode?

/-- The character of a reference, without `&` and the semicolon. -/
def charOfReference? : List Char → Option Char
  | '#' :: ds => charOfNumber? ds
  | name =>
    match String.ofList name with
    | "quot" => some '"'
    | "amp" => some '&'
    | "apos" => some '\''
    | "lt" => some '<'
    | "gt" => some '>'
    | _ => none

/-- The character that a reference stands for, after its `&`, and what follows it. The characters of
the reference so far come last first. -/
def readReference? : (name : List Char) → List Char → Option (Char × List Char)
  | _, [] => none
  | name, c :: cs =>
    if c == ';' then (charOfReference? name.reverse).map fun x => (x, cs)
    else readReference? (c :: name) cs

/-- A piece of character data: a character as it is written, or one that a reference names. -/
inductive Piece where
  | written (c : Char)
  | named (c : Char)
  deriving DecidableEq, Repr

/-- The pieces of character data. -/
def pieces? : (fuel : Nat) → List Char → Option (List Piece)
  | 0, _ => none
  | _ + 1, [] => some []
  | fuel + 1, c :: cs =>
    if c == '&' then
      match readReference? [] cs with
      | some (x, rest) => (pieces? fuel rest).map (.named x :: ·)
      | none => none
    else (pieces? fuel cs).map (.written c :: ·)

/-- Adds a written character to a text (the last character first): a carriage return before it was
a line end, and so is one at the very end. -/
def pushWritten (text : List Char) (c : Char) (atEnd : Bool) : List Char :=
  match text with
  | '\r' :: text =>
    if atEnd && c == '\r' then '\n' :: '\n' :: text
    else if c == '\n' then '\n' :: text
    else c :: '\n' :: text
  | text => if atEnd && c == '\r' then '\n' :: text else c :: text

/-- Joins pieces to a text, the last character first. A named character, and the written one right
after it, are taken as they are. -/
def joinPieces : (asIs : Bool) → (text : List Char) → List Piece → List Char
  | _, text, [] => text
  | _, text, .named c :: rest => joinPieces true (c :: text) rest
  | asIs, text, .written c :: rest =>
    if asIs then joinPieces false (c :: text) rest
    else joinPieces false (pushWritten text c rest.isEmpty) rest

/-- The text of character data. -/
def decodeText? (cs : List Char) : Option String :=
  if cs.contains '&' || cs.contains '\r' then
    (pieces? (cs.length + 1) cs).map fun ps => String.ofList (joinPieces false [] ps).reverse
  else some (String.ofList cs)

/-- The text of a section without references. -/
def decodeSection (cs : List Char) : String :=
  String.ofList (joinPieces false [] (cs.map .written)).reverse

/-- Pieces of an attribute's value: white space becomes spaces, a line end of two characters one. -/
def flattenPieces : List Piece → List Char
  | [] => []
  | .named c :: rest => c :: flattenPieces rest
  | .written '\r' :: .written '\n' :: rest => ' ' :: flattenPieces rest
  | .written c :: rest => (if isSpace c then ' ' else c) :: flattenPieces rest

/-- The value of an attribute. -/
def decodeAttribute? (cs : List Char) : Option String :=
  (pieces? (cs.length + 1) cs).map fun ps => String.ofList (flattenPieces ps)

end Intake.Xml
