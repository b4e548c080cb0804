import Intake.Yaml.Node
import Intake.Yaml.Plain
import Intake.Yaml.Value

/-!
# Reading YAML values

`Value.ofText?` reads the value of the only document of a text. A tag of the document's own makes a
tagged value; of the standard tags those of null, truth values and numbers fix what a scalar is read
as, and under any other a scalar is a text. An alias stands for its node once more. Collections lie
at most `collectionLevels` deep inside each other, aliases included, and a document may not unfold
to much more than it says; a mapping has no key twice.
-/

namespace Intake.Yaml

namespace Value

mutual

/-- Are two values equal as keys? The order of the entries of a mapping does not count. -/
def same : Value → Value → Bool
  | null, null => true
  | bool a, bool b => a == b
  | integer a, integer b => a == b
  | float a, float b => a == b || (a.toInt? == some 0 && b.toInt? == some 0)
  | text a, text b => a == b
  | list as, list bs => sameItems as bs
  | mapping as, mapping bs => as.length == bs.length && sameEntries as bs
  | tagged s a, tagged t b => s == t && same a b
  | _, _ => false

/-- Are two lists equal item by item? -/
def sameItems : List Value → List Value → Bool
  | [], [] => true
  | a :: as, b :: bs => same a b && sameItems as bs
  | _, _ => false

/-- Is every entry of the first list also in the second? -/
def sameEntries : List (Value × Value) → List (Value × Value) → Bool
  | [], _ => true
  | (k, v) :: rest, bs => bs.any (fun (l, w) => same k l && same v w) && sameEntries rest bs

end

/-- Is some key in a list of entries twice? -/
def hasRepeatedKey : List (Value × Value) → Bool
  | [] => false
  | (k, _) :: rest => rest.any (fun (l, _) => same k l) || hasRepeatedKey rest

/-- The value that a plain scalar stands for; there is none for an integer beyond 64 bits. -/
def ofPlain? (s : String) : Option Value :=
  match Plain.ofString s with
  | .null => some null
  | .bool b => some (bool b)
  | .integer i => some (integer i)
  | .wideInteger => none
  | .float x => some (float x)
  | .text => some (text s)

/-- The value of a scalar without a tag. -/
def ofUntagged? (isPlain : Bool) (s : String) : Option Value :=
  if isPlain then ofPlain? s else some (text s)

/-- The name in a tag of the document's own. -/
def ownTag? (tag : String) : Option String :=
  match tag.toList with
  | '!' :: c :: cs => some (String.ofList (c :: cs))
  | _ => none

/-- The integer that a text under the tag of integers spells, when it fits into 64 bits. -/
def ofInteger? (s : String) : Option Value :=
  match (readInteger? s.toList).bind Plain.ofInteger? with
  | some (.integer i) => some (integer i)
  | _ => none

/-- The value of a scalar under a tag that is not the document's own. -/
def ofTagged? (tag : String) (isPlain : Bool) (s : String) : Option Value :=
  match tag with
  | "tag:yaml.org,2002:bool" => (readBool? s).map bool
  | "tag:yaml.org,2002:int" => ofInteger? s
  | "tag:yaml.org,2002:float" => (readFloat? s.toList).map float
  | "tag:yaml.org,2002:null" => if isNullWord s then some null else none
  | "!" => ofUntagged? isPlain s
  | _ => some (text s)

/-- The value of a scalar. -/
def ofScalar? (tag : Option String) (isPlain : Bool) (s : String) : Option Value :=
  match tag with
  | none => ofUntagged? isPlain s
  | some t =>
    match ownTag? t with
    | some name => (ofUntagged? isPlain s).map (tagged name)
    | none => ofTagged? t isPlain s

/-- A collection under its tag; only a tag of the document's own says something of it. -/
def underTag (tag : Option String) (v : Value) : Value :=
  match tag.bind ownTag? with
  | some name => tagged name v
  | none => v

end Value

/-- How many collections may lie inside each other. -/
def collectionLevels : Nat := 128

/-- How many aliases may be followed for each beginning or end of a node. -/
def aliasesPerEvent : Nat := 100

namespace Node

/-- A computation that may follow a limited number of aliases. -/
abbrev Unfolding (α : Type) := StateT Nat Option α

/-- The node that an alias stands for; any other node stands for itself. -/
def target (anchors : Nat → Option Node) : Node → Unfolding Node
  | .aliasOf n => do
    match ← get with
    | 0 => failure
    | left + 1 =>
      set left
      match anchors n with
      | some node => return node
      | none => failure
  | node => return node

/-- The value of a node with a number of levels of collections. -/
def value (anchors : Nat → Option Node) : (levels : Nat) → Node → Unfolding Value
  | 0, node => do
    match ← target anchors node with
    | .scalar p isPlain s => (Value.ofScalar? p.tag isPlain s : Option Value)
    | _ => failure
  | levels + 1, node => do
    match ← target anchors node with
    | .aliasOf _ => failure
    | .scalar p isPlain s => (Value.ofScalar? p.tag isPlain s : Option Value)
    | .list p items =>
      return Value.underTag p.tag (.list (← items.mapM (value anchors levels)))
    | .mapping p entries =>
      let entries ← entries.mapM fun (k, v) => do
        return (← value anchors levels k, ← value anchors levels v)
      if Value.hasRepeatedKey entries then failure
      return Value.underTag p.tag (.mapping entries)

/-- The value of a document. -/
def documentValue? (root : Node) : Option Value :=
  let anchored := root.anchored.reverse
  let aliases := aliasesPerEvent * root.events
  ((value (anchored.lookup ·) collectionLevels root).run aliases).map (·.1)

end Node

/-- The value of the only document of a text. -/
def Value.ofText? (s : String) : Option Value :=
  ((tokens? s).bind Node.ofTokens?).bind Node.documentValue?

end Intake.Yaml
