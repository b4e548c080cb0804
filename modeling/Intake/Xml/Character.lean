/-!
# Characters of XML

The characters that an XML document may contain, those of names, and white space.
-/

namespace Intake.Xml

/-- White space of XML: space, tab and the two line end characters. -/
def isSpace (c : Char) : Bool := c == ' ' || c == '\t' || c == '\n' || c == '\r'

/-- A character that a document may contain. -/
def isAllowed (c : Char) : Bool :=
  if c.toNat < 0x20 then isSpace c else c.toNat != 0xfffe && c.toNat != 0xffff

/-- Is a code point in one of a list of ranges? -/
def inRanges (ranges : List (Nat × Nat)) (n : Nat) : Bool :=
  ranges.any fun r => r.1 ≤ n && n ≤ r.2

/-- The code points beyond ASCII that a name may begin with. -/
def nameStarts : List (Nat × Nat) :=
  [(0xc0, 0xd6), (0xd8, 0xf6), (0xf8, 0x2ff), (0x370, 0x37d), (0x37f, 0x1fff), (0x200c, 0x200d),
    (0x2070, 0x218f), (0x2c00, 0x2fef), (0x3001, 0xd7ff), (0xf900, 0xfdcf), (0xfdf0, 0xfffd),
    (0x10000, 0xeffff)]

/-- The code points beyond ASCII that a name may have only later. -/
def nameParts : List (Nat × Nat) := [(0xb7, 0xb7), (0x300, 0x36f), (0x203f, 0x2040)]

/-- A character that a name may begin with. -/
def isNameStart (c : Char) : Bool :=
  if c.toNat ≤ 0x80 then c.isAlpha || c == ':' || c == '_' else inRanges nameStarts c.toNat

/-- A character of a name. -/
def isNameChar (c : Char) : Bool :=
  if c.toNat ≤ 0x80 then c.isAlphanum || c == ':' || c == '_' || c == '-' || c == '.'
  else inRanges nameStarts c.toNat || inRanges nameParts c.toNat

end Intake.Xml
