import Intake.Json.Number
import Intake.Json.Quoted

/-!
# The layout of JSON documents

`Value.pretty` writes a value as the documents hold it: each item and member on its own line, two
blanks deeper than the line that opens the bracket, a blank after the colon, and empty arrays and
objects as a pair of brackets.
-/

namespace Intake.Json.Value

/-- A new line with the indentation of a depth. -/
def lineBreak (depth : Nat) : List Char := '\n' :: List.replicate (2 * depth) ' '

mutual

/-- The characters of a value whose first line is `depth` levels deep. -/
def layout (depth : Nat) : Value → List Char
  | null => "null".toList
  | bool true => "true".toList
  | bool false => "false".toList
  | number n => n.text.toList
  | string s => encode s
  | array [] => ['[', ']']
  | array (v :: rest) =>
    '[' :: (lineBreak (depth + 1) ++ layout (depth + 1) v ++ layoutItems (depth + 1) rest ++
      lineBreak depth ++ [']'])
  | object [] => ['\x7b', '\x7d']
  | object ((k, v) :: rest) =>
    '\x7b' :: (lineBreak (depth + 1) ++ encode k ++ [':', ' '] ++ layout (depth + 1) v ++
      layoutMembers (depth + 1) rest ++ lineBreak depth ++ ['\x7d'])

/-- The items after the first one. -/
def layoutItems (depth : Nat) : List Value → List Char
  | [] => []
  | v :: rest => ',' :: (lineBreak depth ++ layout depth v ++ layoutItems depth rest)

/-- The members after the first one. -/
def layoutMembers (depth : Nat) : List (String × Value) → List Char
  | [] => []
  | (k, v) :: rest =>
    ',' :: (lineBreak depth ++ encode k ++ [':', ' '] ++ layout depth v ++
      layoutMembers depth rest)

end

/-- The text of a value in a document. -/
def pretty (v : Value) : String := String.ofList (layout 0 v)

end Intake.Json.Value
