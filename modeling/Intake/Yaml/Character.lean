/-!
# Characters of YAML

The classes of characters that the syntax of YAML is made of: breaks, blanks, indicators, and the
printable characters.
-/

namespace Intake.Yaml

/-- A line break: line feed, carriage return, next line, line and paragraph separator. -/
def isBreak (c : Char) : Bool :=
  c == '\n' || c == '\r' || c == '\u0085' || c == '\u2028' || c == '\u2029'

/-- A space or a tab. -/
def isSpaceOrTab (c : Char) : Bool := c == ' ' || c == '\t'

/-- The end of the text, which a null character also stands for. -/
def isEnd : Option Char → Bool
  | none => true
  | some c => c == '\x00'

/-- A break or the end of the text. -/
def isBreakOrEnd (c? : Option Char) : Bool := isEnd c? || c?.any isBreak

/-- A blank, a break or the end of the text. -/
def isBlankOrEnd (c? : Option Char) : Bool := isBreakOrEnd c? || c?.any isSpaceOrTab

/-- A character that can be written as it is. -/
def isPrintable (c : Char) : Bool :=
  let n := c.toNat
  n == 0x0a || (0x20 ≤ n && n ≤ 0x7e) || (0xa0 ≤ n && n != 0xfeff && n != 0xfffe && n != 0xffff)

/-- Indicators that a plain scalar never begins with. -/
def isIndicator (c : Char) : Bool :=
  c ∈ ['#', ',', '[', ']', '\x7b', '\x7d', '&', '*', '!', '|', '>', '\'', '"', '%', '@', '\x60']

end Intake.Yaml
