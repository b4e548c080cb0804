import Intake.Yaml.Character
import Intake.Yaml.Plain

/-!
# The style of a scalar

A text is written without quotes when it is read back as itself; between single quotes when it
would be read as something else or has syntax in it; as a literal block when it has line breaks;
and between double quotes, with escapes, when none of these can hold its characters
(`Style.ofText`).
-/

namespace Intake.Yaml

/-- The ways of writing a text. -/
inductive Style where
  | plain
  | singleQuoted
  | doubleQuoted
  | literal
  deriving DecidableEq, Repr

/-- Does a text have an indicator where it counts, after a first character? -/
def hasLaterIndicator : (previous : Char) → List Char → Bool
  | _, [] => false
  | previous, c :: cs =>
    (c == ':' && isBlankOrEnd cs.head?) ||
      (c == '#' && isBlankOrEnd (some previous)) ||
      hasLaterIndicator c cs

/-- Does a text have an indicator where it counts? -/
def hasIndicator : List Char → Bool
  | [] => false
  | c :: cs =>
    isIndicator c ||
      ((c == '-' || c == '?' || c == ':') && isBlankOrEnd cs.head?) ||
      hasLaterIndicator c cs

/-- Does a text begin like the marker of a document? -/
def beginsLikeMarker (cs : List Char) : Bool :=
  cs.take 3 == ['-', '-', '-'] || cs.take 3 == ['.', '.', '.']

/-- Does a character satisfying `p` stand right before one satisfying `q`? -/
def hasAdjacent (p q : Char → Bool) : List Char → Bool
  | a :: b :: cs => (p a && q b) || hasAdjacent p q (b :: cs)
  | _ => false

/-- Is the first or the last character a space or a break? -/
def hasOuterSpace (cs : List Char) : Bool :=
  let p := fun c => c == ' ' || isBreak c
  cs.head?.any p || cs.getLast?.any p

/-- Can only escapes write the text? -/
def needsEscapes (cs : List Char) : Bool :=
  cs.any (fun c => !isPrintable c && !isBreak c) ||
    cs.any (fun c => c == '\r' || c == '\u0085') ||
    hasAdjacent (· == ' ') isBreak cs

/-- Can the text be written without quotes, whatever it would be read as? -/
def fitsPlain (cs : List Char) : Bool :=
  !needsEscapes cs && !hasOuterSpace cs && !cs.any isBreak && !hasIndicator cs &&
    !beginsLikeMarker cs

/-- Can the text be written between single quotes? -/
def fitsSingleQuotes (cs : List Char) : Bool :=
  !needsEscapes cs && !hasAdjacent isBreak (· == ' ') cs

/-- Can the text be written as a literal block? -/
def fitsLiteral (cs : List Char) : Bool :=
  !needsEscapes cs && cs.getLast? != some ' '

namespace Style

/-- Would the text be read as itself without quotes, and does it not look like a number? -/
def needsNoQuotes (s : String) : Bool :=
  Plain.isText s && !zeroPadded (dropSign s.toList)

/-- The style of a text that is not to be a literal block. -/
def ofLine (s : String) : Style :=
  if needsNoQuotes s && fitsPlain s.toList then plain
  else if fitsSingleQuotes s.toList then singleQuoted
  else doubleQuoted

/-- The style in which a text is written. -/
def ofText (s : String) : Style :=
  if s.toList.contains '\n' then (if fitsLiteral s.toList then literal else doubleQuoted)
  else ofLine s

end Style

end Intake.Yaml
