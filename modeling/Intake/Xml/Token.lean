import Intake.Text.Blank
import Intake.Xml.Text

/-!
# Tokens of XML

`tokens?` takes a document apart into tags, texts, and comments and instructions, which count only
as what separates texts. A document is a declaration, if any, one element, and comments and
instructions around it; a document type is not accepted.
-/

namespace Intake.Xml

/-- A name with the prefix of its namespace, which may be empty. -/
structure QName where
  space : String
  name : String
  deriving DecidableEq, Repr

/-- A token of a document. -/
inductive Token where
  | opening (name : QName) (attributes : List (QName × String)) (isEmpty : Bool)
  | closing (name : QName)
  | text (s : String)
  /-- A comment or a processing instruction. -/
  | remark
  deriving Repr

/-- What follows white space. -/
def skipSpace (cs : List Char) : List Char := cs.dropWhile isSpace

/-- What follows the first occurrence of a text, and what comes before it (the last first). -/
def splitAt? (stop : List Char) : (before : List Char) → List Char → Option (List Char × List Char)
  | before, [] => if stop.isEmpty then some (before, []) else none
  | before, c :: cs =>
    match Text.dropStart? stop (c :: cs) with
    | some rest => some (before, rest)
    | none => splitAt? stop (c :: before) cs

/-- Does a name begin as one should? -/
def beginsName (cs : List Char) : Bool := cs.head?.any isNameStart

/-- Reads a name with its prefix; at most one colon separates the two. -/
def readQName? (cs : List Char) : Option (QName × List Char) :=
  let (name, rest) := (cs.takeWhile isNameChar, cs.dropWhile isNameChar)
  let parts := match Text.splitOn ':' name with
    | [name] => some ([], name)
    | [space, name] => some (space, name)
    | _ => none
  match parts with
  | some (space, name) =>
    if beginsName name && (space.isEmpty || beginsName space) then
      some (⟨String.ofList space, String.ofList name⟩, rest)
    else none
  | none => none

/-- Reads an attribute, its value as it is written. -/
def readAttribute? (cs : List Char) : Option ((QName × List Char) × List Char) :=
  match readQName? cs with
  | none => none
  | some (name, cs) =>
    match skipSpace cs with
    | '=' :: cs =>
      match skipSpace cs with
      | quote :: cs =>
        if quote == '"' || quote == '\'' then
          let value := cs.takeWhile fun c => c != quote && c != '<'
          match cs.drop value.length with
          | c :: rest => if c == quote then some ((name, value), rest) else none
          | [] => none
        else none
      | [] => none
    | _ => none

/-- Reads the attributes of a tag up to its end; white space stands before each. -/
def readAttributes? : (fuel : Nat) → List Char →
    Option (List (QName × String) × Bool × List Char)
  | 0, _ => none
  | fuel + 1, cs =>
    match skipSpace cs with
    | '/' :: '>' :: rest => some ([], true, rest)
    | '>' :: rest => some ([], false, rest)
    | next =>
      if !cs.head?.any isSpace then none
      else
        match readAttribute? next with
        | none => none
        | some ((name, value), rest) =>
          match decodeAttribute? value, readAttributes? fuel rest with
          | some value, some (others, isEmpty, rest) =>
            some ((name, value) :: others, isEmpty, rest)
          | _, _ => none

/-- Reads an opening tag after its bracket. -/
def readOpening? (fuel : Nat) (cs : List Char) : Option (Token × List Char) :=
  match readQName? cs with
  | none => none
  | some (name, cs) =>
    (readAttributes? fuel cs).map fun (attributes, isEmpty, rest) =>
      (.opening name attributes isEmpty, rest)

/-- Reads a closing tag after its bracket and slash. -/
def readClosing? (cs : List Char) : Option (Token × List Char) :=
  match readQName? cs with
  | none => none
  | some (name, cs) =>
    match skipSpace cs with
    | '>' :: rest => some (.closing name, rest)
    | _ => none

/-- Reads a comment after `<!--`; two hyphens stand only at its end. -/
def readComment? : List Char → Option (Token × List Char)
  | '-' :: '-' :: '>' :: rest => some (.remark, rest)
  | '-' :: '-' :: _ => none
  | _ :: cs => readComment? cs
  | [] => none

/-- Reads a processing instruction after `<?`. -/
def readInstruction? (cs : List Char) : Option (Token × List Char) :=
  if beginsName cs && Text.dropStart? "xml ".toList cs == none then
    (splitAt? ['?', '>'] [] (cs.dropWhile isNameChar)).map fun (_, rest) => (.remark, rest)
  else none

/-- Reads a section of literal text after `<![CDATA[`. -/
def readSection? (cs : List Char) : Option (Token × List Char) :=
  (splitAt? [']', ']', '>'] [] cs).map fun (text, rest) =>
    (.text (decodeSection text.reverse), rest)

/-- Reads a text up to the next tag. -/
def readText? (cs : List Char) : Option (Token × List Char) :=
  let text := cs.takeWhile (· != '<')
  if (splitAt? [']', ']', '>'] [] text).isSome then none
  else (decodeText? text).map fun s => (.text s, cs.drop text.length)

/-- Reads a comment or an instruction, if one begins here. -/
def readRemark? (cs : List Char) : Option (Option (Token × List Char)) :=
  match cs with
  | '<' :: '!' :: '-' :: '-' :: rest => some (readComment? rest)
  | '<' :: '?' :: rest => some (readInstruction? rest)
  | _ => none

/-- Reads a token inside of an element. -/
def readContent? (fuel : Nat) (cs : List Char) : Option (Token × List Char) :=
  match readRemark? cs with
  | some r => r
  | none =>
    match cs with
    | '<' :: '!' :: rest =>
      (Text.dropStart? "[CDATA[".toList rest).bind readSection?
    | '<' :: '/' :: rest => readClosing? rest
    | '<' :: rest => readOpening? fuel rest
    | _ => readText? cs

/-- How many elements are open after a token. -/
def Token.depthAfter (depth : Nat) : Token → Nat
  | opening _ _ isEmpty => if isEmpty then depth else depth + 1
  | closing _ => depth - 1
  | _ => depth

/-- Reads the tokens inside of open elements, up to the end of the outermost, after those that have
been read before (the last first). As every token has a character, fuel beyond the characters that
are left suffices for each of them as well. -/
def readTokens? : (fuel depth : Nat) → (before : List Token) → List Char →
    Option (List Token × List Char)
  | _, 0, before, cs => some (before.reverse, cs)
  | 0, _, _, _ => none
  | fuel + 1, depth + 1, before, cs =>
    match readContent? fuel cs with
    | none => none
    | some (t, rest) => readTokens? fuel (t.depthAfter (depth + 1)) (t :: before) rest

/-- Skips comments and instructions. -/
def skipRemarks? : (fuel : Nat) → List Char → Option (List Char)
  | 0, _ => none
  | fuel + 1, cs =>
    let next := skipSpace cs
    match readRemark? next with
    | none => some next
    | some none => none
    | some (some (_, rest)) => skipRemarks? fuel rest

/-- White space, or the end of a declaration. -/
def declarationSpace? (cs : List Char) : Option (List Char) :=
  let next := skipSpace cs
  if next.length < cs.length || (Text.dropStart? ['?', '>'] cs).isSome then some next else none

/-- Skips a part of a declaration that begins with a word, if it is there. -/
def skipDeclared? (word : String) (cs : List Char) : Option (List Char) :=
  if (Text.dropStart? word.toList cs).isSome then
    (readAttribute? cs).bind fun (_, rest) => declarationSpace? rest
  else some cs

/-- Skips the declaration at the beginning of a document. -/
def skipDeclaration? (cs : List Char) : Option (List Char) :=
  match Text.dropStart? "<?xml ".toList cs with
  | none => some cs
  | some rest => do
    let cs := skipSpace rest
    if (Text.dropStart? "version".toList cs).isNone then none
    let cs ← skipDeclared? "version" cs
    let cs ← skipDeclared? "encoding" cs
    let cs ←
      if (Text.dropStart? "standalone".toList cs).isSome then (readAttribute? cs).map (·.2)
      else some cs
    Text.dropStart? ['?', '>'] (skipSpace cs)

/-- The tokens of the element of a document. -/
def tokens? (s : String) : Option (List Token) :=
  let cs := match s.toList with
    | '\ufeff' :: cs => cs
    | cs => cs
  if !cs.all isAllowed then none
  else do
    let cs ← skipDeclaration? cs
    let cs ← skipRemarks? (cs.length + 1) cs
    let (root, cs) ← match cs with
      | '<' :: cs => readOpening? (cs.length + 1) cs
      | _ => none
    let (ts, cs) ← readTokens? (cs.length + 1) (root.depthAfter 0) [root] cs
    let cs ← skipRemarks? (cs.length + 1) cs
    if cs.isEmpty then some ts else none

end Intake.Xml
