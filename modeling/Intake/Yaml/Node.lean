import Intake.Yaml.Token

/-!
# Nodes of YAML

`Node` is a document as it is written: scalars, lists and mappings with their tags, anchors and
aliases. `Node.ofTokens?` reads the one document of a list of tokens. An anchor has a number, and
an alias refers to it by that; the number is how many different names there were before, and the
last node with a number is the one that its aliases mean.
-/

namespace Intake.Yaml

/-- What may stand before a node: an anchor and a tag. -/
structure Properties where
  anchor : Option Nat
  tag : Option String
  deriving DecidableEq, Repr

/-- A node of a document. -/
inductive Node where
  | aliasOf (anchor : Nat)
  | scalar (properties : Properties) (isPlain : Bool) (text : String)
  | list (properties : Properties) (items : List Node)
  | mapping (properties : Properties) (entries : List (Node × Node))
  deriving Repr, Inhabited

/-- The state in which tokens are read: those left, the handles that stand for the beginning of a
tag, and the numbers of the names of anchors. -/
structure Reader where
  tokens : List Token
  handles : List (String × String)
  anchors : List (String × Nat)

/-- A step of reading, which may fail. -/
abbrev Reading (α : Type) := StateT Reader Option α

namespace Reading

/-- The next token. -/
def peek : Reading (Option Token) := do return (← get).tokens.head?

/-- Leaves the next token behind. -/
def advance : Reading Unit := modify fun r => { r with tokens := r.tokens.drop 1 }

/-- Is the next token one of these? -/
def nextIs (ts : List Token) : Reading Bool := do return (← peek).any ts.contains

/-- Leaves the next token behind, which has to be this one. -/
def expect (t : Token) : Reading Unit := do
  if ← nextIs [t] then advance else failure

/-- Gives a name its number. -/
def defineAnchor (name : String) : Reading Nat := do
  let r ← get
  let number := r.anchors.length
  let others := r.anchors.filter fun a => a.1 != name
  set { r with anchors := (name, number) :: others }
  return number

/-- The number of a name that has been defined. -/
def anchorNumber (name : String) : Reading Nat := do
  let r ← get
  match r.anchors.lookup name with
  | some n => return n
  | none => failure

/-- The whole tag of a handle and a suffix; a handle has to be declared. -/
def wholeTag (handle suffix : String) : Reading String := do
  if handle.isEmpty then return suffix
  match (← get).handles.lookup handle with
  | some start => return start ++ suffix
  | none => failure

/-- An anchor, when there is one. -/
def anchor? : Reading (Option String) := do
  match ← peek with
  | some (.anchor name) => advance; return some name
  | _ => return none

/-- A tag, when there is one. -/
def tag? : Reading (Option (String × String)) := do
  match ← peek with
  | some (.tag handle suffix) => advance; return some (handle, suffix)
  | _ => return none

/-- An anchor and a tag in either order. -/
def properties : Reading Properties := do
  let before ← anchor?
  let tag ← tag?
  let after ← if before.isNone && tag.isSome then anchor? else pure none
  let tag ← match tag with
    | some (handle, suffix) => some <$> wholeTag handle suffix
    | none => pure none
  let anchor ← match before <|> after with
    | some name => some <$> defineAnchor name
    | none => pure none
  return ⟨anchor, tag⟩

/-- A scalar that is left out. -/
def absent : Node := .scalar ⟨none, none⟩ true ""

/-- A scalar; the tag `!` says nothing of it. -/
def scalarNode (p : Properties) (isPlain : Bool) (text : String) : Node :=
  .scalar { p with tag := p.tag.filter (· != "!") } isPlain text

/-- The tokens before which a key or a value of a block mapping is left out. -/
def endsBlockPart : List Token := [.key, .value, .blockEnd]

mutual

/-- Reads a node. In a block, lists and mappings in block style may stand; as a part of a block
mapping also a list that is not indented. -/
def node (inBlock besideKey : Bool) : (fuel : Nat) → Reading Node
  | 0 => failure
  | fuel + 1 => do
    match ← peek with
    | some (.aliasOf name) =>
      advance
      return .aliasOf (← anchorNumber name)
    | _ =>
      let p ← properties
      match ← peek with
      | some .blockEntry =>
        if besideKey then return .list p (← looseItems fuel) else bare p
      | some (.scalar isPlain text) =>
        advance
        return scalarNode p isPlain text
      | some .flowListStart =>
        advance
        return .list p (← flowItems true fuel)
      | some .flowMappingStart =>
        advance
        return .mapping p (← flowEntries true fuel)
      | some .blockListStart =>
        if inBlock then
          advance
          return .list p (← blockItems fuel)
        else bare p
      | some .blockMappingStart =>
        if inBlock then
          advance
          return .mapping p (← blockEntries fuel)
        else bare p
      | _ => bare p

/-- A node that consists of its properties only. -/
def bare (p : Properties) : Reading Node :=
  if p.anchor.isSome || p.tag.isSome then return .scalar p true "" else failure

/-- The items of a block list. -/
def blockItems : (fuel : Nat) → Reading (List Node)
  | 0 => failure
  | fuel + 1 => do
    if ← nextIs [.blockEnd] then
      advance
      return []
    expect .blockEntry
    let item ← part [.blockEntry, .blockEnd] true false fuel
    return item :: (← blockItems fuel)

/-- The items of a list at the column of its key. -/
def looseItems : (fuel : Nat) → Reading (List Node)
  | 0 => failure
  | fuel + 1 => do
    if ← nextIs [.blockEntry] then
      advance
      let item ← part [.blockEntry, .key, .value, .blockEnd] true false fuel
      return item :: (← looseItems fuel)
    else return []

/-- The entries of a block mapping. -/
def blockEntries : (fuel : Nat) → Reading (List (Node × Node))
  | 0 => failure
  | fuel + 1 => do
    if ← nextIs [.blockEnd] then
      advance
      return []
    expect .key
    let key ← part endsBlockPart true true fuel
    let value ← valuePart endsBlockPart true fuel
    return (key, value) :: (← blockEntries fuel)

/-- The items of a flow list. A single entry of a mapping may stand as an item. -/
def flowItems (first : Bool) : (fuel : Nat) → Reading (List Node)
  | 0 => failure
  | fuel + 1 => do
    if ← nextIs [.flowListEnd] then
      advance
      return []
    if !first then expect .flowEntry
    if ← nextIs [.flowListEnd] then
      advance
      return []
    let item ← if ← nextIs [.key] then
        advance
        pairItem fuel
      else node false false fuel
    return item :: (← flowItems false fuel)

/-- A single entry of a mapping as an item of a flow list. A key that is left out takes the next
token with it. -/
def pairItem : (fuel : Nat) → Reading Node
  | 0 => failure
  | fuel + 1 => do
    let key ← if ← nextIs [.value, .flowEntry, .flowListEnd] then
        advance
        pure absent
      else node false false fuel
    let value ← valuePart [.flowEntry, .flowListEnd] false fuel
    return .mapping ⟨none, none⟩ [(key, value)]

/-- The entries of a flow mapping. A key may stand without a value. -/
def flowEntries (first : Bool) : (fuel : Nat) → Reading (List (Node × Node))
  | 0 => failure
  | fuel + 1 => do
    if ← nextIs [.flowMappingEnd] then
      advance
      return []
    if !first then expect .flowEntry
    if ← nextIs [.flowMappingEnd] then
      advance
      return []
    let entry ← if ← nextIs [.key] then
        advance
        let key ← part [.value, .flowEntry, .flowMappingEnd] false false fuel
        let value ← valuePart [.flowEntry, .flowMappingEnd] false fuel
        pure (key, value)
      else
        let key ← node false false fuel
        pure (key, absent)
    return entry :: (← flowEntries false fuel)

/-- A node that is left out when one of these tokens is next. -/
def part (ends : List Token) (inBlock besideKey : Bool) : (fuel : Nat) → Reading Node
  | 0 => failure
  | fuel + 1 => do
    if ← nextIs ends then return absent else node inBlock besideKey fuel

/-- The value of an entry with its indicator; both may be left out. -/
def valuePart (ends : List Token) (inBlock : Bool) : (fuel : Nat) → Reading Node
  | 0 => failure
  | fuel + 1 => do
    if ← nextIs [.value] then
      advance
      part ends inBlock inBlock fuel
    else return absent

end

/-! ## Documents -/

/-- Is the next token a directive? -/
def directiveNext : Reading Bool := do
  match ← peek with
  | some (.versionDirective ..) => return true
  | some (.tagDirective ..) => return true
  | _ => return false

/-- The directives before a document. There is at most one version, and no handle is declared
twice. -/
def directives : (fuel : Nat) → (versioned : Bool) → Reading Unit
  | 0, _ => failure
  | fuel + 1, versioned => do
    match ← peek with
    | some (.versionDirective major minor) =>
      if versioned || major != 1 || (minor != 1 && minor != 2) then failure
      advance
      directives fuel true
    | some (.tagDirective handle start) =>
      let r ← get
      if (r.handles.lookup handle).isSome then failure
      set { r with handles := (handle, start) :: r.handles }
      advance
      directives fuel versioned
    | _ => return ()

/-- The handles that need no declaration. A declaration of one of them goes before. -/
def standardHandles : List (String × String) := [("!", "!"), ("!!", "tag:yaml.org,2002:")]

/-- Leaves the markers of the end of a document behind. -/
def documentEnds : Reading Unit :=
  modify fun r => { r with tokens := r.tokens.dropWhile (· == .documentEnd) }

/-- The only document of a text; a text without one is an absent scalar. -/
def document (fuel : Nat) : Reading Node := do
  if (← peek).isNone then return absent
  let explicit := (← directiveNext) || (← nextIs [.documentStart])
  if explicit then
    directives fuel false
    expect .documentStart
  modify fun r => { r with handles := r.handles ++ standardHandles }
  let empty := (← peek).isNone || (← directiveNext) || (← nextIs [.documentStart, .documentEnd])
  let root ← if explicit && empty then pure absent else node true false fuel
  documentEnds
  if (← peek).isSome then failure
  return root

end Reading

namespace Node

/-- The only document that a list of tokens holds. -/
def ofTokens? (tokens : List Token) : Option Node :=
  ((Reading.document (4 * tokens.length + 4)).run ⟨tokens, [], []⟩).map (·.1)

mutual

/-- The nodes with anchors, in the order in which they begin. -/
def anchored : Node → List (Nat × Node)
  | aliasOf _ => []
  | scalar p isPlain text => (p.anchor.map fun n => (n, scalar p isPlain text)).toList
  | list p items =>
    (p.anchor.map fun n => (n, list p items)).toList ++ anchoredItems items
  | mapping p entries =>
    (p.anchor.map fun n => (n, mapping p entries)).toList ++ anchoredEntries entries

/-- The nodes with anchors in a list. -/
def anchoredItems : List Node → List (Nat × Node)
  | [] => []
  | n :: rest => anchored n ++ anchoredItems rest

/-- The nodes with anchors in the entries of a mapping. -/
def anchoredEntries : List (Node × Node) → List (Nat × Node)
  | [] => []
  | (k, v) :: rest => anchored k ++ anchored v ++ anchoredEntries rest

end

mutual

/-- How many beginnings and ends of nodes there are. -/
def events : Node → Nat
  | aliasOf _ => 1
  | scalar .. => 1
  | list _ items => itemsEvents items + 2
  | mapping _ entries => entriesEvents entries + 2

/-- The beginnings and ends in a list. -/
def itemsEvents : List Node → Nat
  | [] => 0
  | n :: rest => events n + itemsEvents rest

/-- The beginnings and ends in the entries of a mapping. -/
def entriesEvents : List (Node × Node) → Nat
  | [] => 0
  | (k, v) :: rest => events k + events v + entriesEvents rest

end

end Node

end Intake.Yaml
