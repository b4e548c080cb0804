import Intake.Xml.Token

/-!
# XML documents as trees

`Node.read?` reads the element of a document with everything in it. Names are compared without
their namespaces; a namespace matters only in that its prefix has to be declared, and in that an
attribute with one is not the attribute without. Texts that nothing separates are one text.
-/

namespace Intake.Xml

/-- An attribute; without a prefix it has no namespace. -/
structure Attribute where
  space : Option String
  name : String
  value : String
  deriving DecidableEq, Repr

/-- A node of a document. -/
inductive Node where
  | element (name : String) (attributes : List Attribute) (children : List Node)
  | text (s : String)
  /-- A comment or a processing instruction. -/
  | remark
  deriving Repr, Inhabited

/-! ## Namespaces -/

/-- The namespace of the prefix `xml`. -/
def xmlSpace : String := "http://www.w3.org/XML/1998/namespace"

/-- The namespace of declarations of namespaces. -/
def xmlnsSpace : String := "http://www.w3.org/2000/xmlns/"

/-- Namespaces by prefix, the innermost declarations first; the empty prefix is the default. -/
abbrev Scope := List (String × String)

/-- Does an attribute declare a namespace? -/
def declaresSpace (q : QName) : Bool := q.space == "xmlns" || q.name == "xmlns"

/-- Adds the namespaces that the attributes of an element declare, after those declared before. -/
def declareSpaces? : (declared : Scope) → List (QName × String) → Option Scope
  | declared, [] => some declared
  | declared, (q, uri) :: rest =>
    if q.space == "xmlns" then
      if uri == xmlnsSpace || (q.name == "xml") != (uri == xmlSpace) ||
          (declared.lookup q.name).isSome then none
      else if q.name == "xml" then declareSpaces? declared rest
      else declareSpaces? (declared ++ [(q.name, uri)]) rest
    else if q.name == "xmlns" then
      if uri == xmlSpace || uri == xmlnsSpace then none
      else declareSpaces? (declared ++ [("", uri)]) rest
    else declareSpaces? declared rest

/-- The namespace of an attribute's prefix, which has to be declared. -/
def attributeSpace? (scope : Scope) (space : String) : Option (Option String) :=
  if space == "xml" then some (some xmlSpace)
  else if space.isEmpty then some none
  else (scope.lookup space).map some

/-- Is the prefix of an element declared? -/
def declaresElement (scope : Scope) (space : String) : Bool :=
  space != "xmlns" && (space.isEmpty || (scope.lookup space).isSome)

/-- The attributes of an element that are not declarations; none may be repeated. -/
def resolveAttributes? (scope : Scope) : (before : List Attribute) → List (QName × String) →
    Option (List Attribute)
  | before, [] => some before
  | before, (q, value) :: rest =>
    if declaresSpace q then resolveAttributes? scope before rest
    else
      match attributeSpace? scope q.space with
      | none => none
      | some space =>
        if before.any fun a => a.space == space && a.name == q.name then none
        else resolveAttributes? scope (before ++ [⟨space, q.name, value⟩]) rest

/-! ## Building the tree -/

/-- An element that is not closed yet. -/
structure OpenElement where
  tag : QName
  attributes : List Attribute
  scope : Scope
  /-- The children read so far, the last first. -/
  children : List Node

namespace OpenElement

/-- The element of an opening tag inside of a scope. -/
def ofTag? (outer : Scope) (tag : QName) (attributes : List (QName × String)) :
    Option OpenElement := do
  let own ← declareSpaces? [] attributes
  let scope := own ++ outer
  let attributes ← resolveAttributes? scope [] attributes
  if declaresElement scope tag.space then some ⟨tag, attributes, scope, []⟩ else none

/-- The element as a node. -/
def close (e : OpenElement) : Node := .element e.tag.name e.attributes e.children.reverse

/-- Adds a child; a text is joined to a text before it. -/
def add (e : OpenElement) (n : Node) : OpenElement :=
  match n, e.children with
  | .text s, .text before :: rest => { e with children := .text (before ++ s) :: rest }
  | n, children => { e with children := n :: children }

end OpenElement

/-- Builds the tree of tokens, with the elements that are open, the innermost first. -/
def build? : (stack : List OpenElement) → List Token → Option Node
  | _, [] => none
  | stack, t :: rest =>
    match t, stack with
    | .opening tag attributes isEmpty, stack =>
      match OpenElement.ofTag? ((stack.head?.map (·.scope)).getD []) tag attributes with
      | none => none
      | some e =>
        if isEmpty then
          match stack with
          | [] => some e.close
          | parent :: outer => build? (parent.add e.close :: outer) rest
        else build? (e :: stack) rest
    | .closing tag, e :: outer =>
      if tag != e.tag then none
      else
        match outer with
        | [] => some e.close
        | parent :: outer => build? (parent.add e.close :: outer) rest
    | .text s, e :: outer => build? (e.add (.text s) :: outer) rest
    | .remark, e :: outer => build? (e.add .remark :: outer) rest
    | _, [] => none

namespace Node

/-- Reads the element of a document. -/
def read? (s : String) : Option Node := (tokens? s).bind (build? [])

/-! ## Looking at nodes -/

/-- The children of an element. -/
def children : Node → List Node
  | element _ _ children => children
  | _ => []

/-- The attributes of an element, in order. -/
def attributes : Node → List Attribute
  | element _ attributes _ => attributes
  | _ => []

/-- Is the node an element with a name? -/
def isNamed (name : String) : Node → Bool
  | element n _ _ => n == name
  | _ => false

/-- The value of the attribute with a name and no namespace. -/
def attribute? (n : Node) (name : String) : Option String :=
  (n.attributes.find? fun a => a.space.isNone && a.name == name).map (·.value)

/-- The children with a name. -/
def childrenNamed (n : Node) (name : String) : List Node := n.children.filter (isNamed name)

/-- The text that an element begins with. -/
def text? (n : Node) : Option String :=
  match n.children with
  | text s :: _ => some s
  | _ => none

mutual

/-- The elements in a node, itself included, in document order. -/
def elements : Node → List Node
  | element name attributes children =>
    element name attributes children :: elementsOf children
  | _ => []

/-- The elements in a list of nodes. -/
def elementsOf : List Node → List Node
  | [] => []
  | n :: rest => elements n ++ elementsOf rest

end

/-- The elements with a name in a node, in document order. -/
def elementsNamed (n : Node) (name : String) : List Node := n.elements.filter (isNamed name)

end Node

end Intake.Xml
