import SemanticLayer.Files.Tree
import SemanticLayer.Json.Record
import SemanticLayer.Shape
/-!
What can be asked of a warehouse: the columns of a table and the definition of a semantic view. That
there is no such table or view is an answer; an error says that the question could not be asked.
-/
namespace SemanticLayer

/-- A column of a table as it is in the warehouse. -/
structure LiveColumn where
  name : String
  type : String
  nullable : Bool
  deriving DecidableEq, Repr

/-- A table as it is in the warehouse. -/
structure LiveTable where
  database : String
  schema : String
  table : String
  columns : List LiveColumn
  deriving DecidableEq, Repr

/-- A semantic view as it is deployed. -/
structure LiveView where
  name : String
  yaml : String
  deriving DecidableEq, Repr

/-- Why a warehouse could not be asked. -/
inductive ProviderError where
  | unreadable (path : String) (error : FileError)
  | malformed (path message : String)
  | unavailable (reason : String)
  deriving DecidableEq, Repr

/-- The wording of an error. -/
def ProviderError.message : ProviderError → String
  | .unreadable path error => s!"failed reading {path}: {error.message}"
  | .malformed path message => s!"failed parsing {path}: {message}"
  | .unavailable reason => s!"provider unavailable: {reason}"

/-- Something that answers questions about a warehouse, by database, schema and name. -/
structure Provider where
  name : String
  table? : String → String → String → Except ProviderError (Option LiveTable)
  view? : String → String → String → Except ProviderError (Option LiveView)

/-- The first column of a name, in any letter case. -/
def LiveTable.column? (t : LiveTable) (name : String) : Option LiveColumn :=
  t.columns.find? fun c => Text.sameIgnoringCase c.name name

namespace LiveColumn

def toJson (c : LiveColumn) : Json :=
  .obj [("name", .str c.name), ("type", .str c.type), ("nullable", .bool c.nullable)]

def ofJson? (v : Json) : Option LiveColumn := do
  let r ← Json.Record.of? ["name", "type", "nullable"] v
  return {
    name := ← r.required "name" Json.str?
    type := ← r.required "type" Json.str?
    nullable := ← r.defaulted "nullable" true Json.bool? }

def shape : Shape :=
  .record "ColumnSchema" [("name", true, .text), ("type", true, .text), ("nullable", false, .flag)]

end LiveColumn

namespace LiveTable

def toJson (t : LiveTable) : Json :=
  .obj [("database", .str t.database), ("schema", .str t.schema), ("table", .str t.table),
    ("columns", .arr (t.columns.map LiveColumn.toJson))]

def ofJson? (v : Json) : Option LiveTable := do
  let r ← Json.Record.of? ["database", "schema", "table", "columns"] v
  return {
    database := ← r.required "database" Json.str?
    schema := ← r.required "schema" Json.str?
    table := ← r.required "table" Json.str?
    columns := ← r.defaulted "columns" [] (Json.listOf LiveColumn.ofJson?) }

def shape : Shape :=
  .record "TableSchema" [("database", true, .text), ("schema", true, .text),
    ("table", true, .text), ("columns", false, .list LiveColumn.shape)]

end LiveTable

def LiveView.toJson (v : LiveView) : Json :=
  .obj [("view_name", .str v.name), ("yaml_content", .str v.yaml)]

end SemanticLayer
