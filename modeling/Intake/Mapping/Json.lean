import Intake.Json.Layout
import Intake.Mapping
import Intake.Table.Json

/-!
# The metadata document

A mapping as a JSON document: an object with one member for each table under its target name, in
order. `Mapping.document` writes the text and `Mapping.ofText?` reads it. On reading, the key of a
member is the name of its table, whatever the table says itself, and a repeated key gives a table
of its own.
-/

namespace Intake.Mapping

/-- A mapping as an object. -/
def toJson (m : Mapping) : Json.Value :=
  .object (m.tables.map fun t => (t.targetTable, t.toJson))

/-- The text of the metadata document. -/
def document (m : Mapping) : String := m.toJson.pretty

/-- Reads a table that stands under a name. -/
def tableOfMember? (member : String × Json.Term) : Option Table :=
  (Table.ofTerm? (Table.documentLevels - 2) member.2).map fun t =>
    { t with targetTable := member.1 }

/-- Reads a mapping from an object. -/
def ofTerm? (t : Json.Term) : Option Mapping :=
  (t.members?.bind fun members => members.mapM tableOfMember?).map Mapping.mk

/-- Reads the text of a metadata document. -/
def ofText? (s : String) : Option Mapping := (Json.Term.read? s).bind ofTerm?

end Intake.Mapping
