import SemanticLayer.Json.Record
import SemanticLayer.Model.Basic
import SemanticLayer.Shape
/-!
Semantic models as values. An empty description, a missing primary key and a missing format are not
written; when a model is read, they and all lists may be left out.
-/
namespace SemanticLayer

/-- The field of a description, unless it is empty. -/
def descriptionField (description : String) : List (String × Json) :=
  if description.isEmpty then [] else [("description", .str description)]

namespace View

def toJson (v : View) : Json :=
  .obj [("database", .str v.database), ("schema", .str v.schema), ("view_name", .str v.name)]

def ofJson? (v : Json) : Option View := do
  let r ← Json.Record.of? ["database", "schema", "view_name"] v
  return {
    database := ← r.required "database" Json.str?
    schema := ← r.required "schema" Json.str?
    name := ← r.required "view_name" Json.str? }

end View

namespace BaseTable

def toJson (b : BaseTable) : Json :=
  .obj [("database", .str b.database), ("schema", .str b.schema), ("table", .str b.table)]

def ofJson? (v : Json) : Option BaseTable := do
  let r ← Json.Record.of? ["database", "schema", "table"] v
  return {
    database := ← r.defaulted "database" "" Json.str?
    schema := ← r.defaulted "schema" "" Json.str?
    table := ← r.defaulted "table" "" Json.str? }

def shape : Shape :=
  .record "BaseTable" [("database", false, .text), ("schema", false, .text), ("table", false, .text)]

end BaseTable

namespace Column

def toJson (c : Column) : Json :=
  .obj ([("name", .str c.name), ("expr", .str c.expr), ("data_type", .str c.dataType)]
    ++ descriptionField c.description)

def ofJson? (v : Json) : Option Column := do
  let r ← Json.Record.of? ["name", "expr", "data_type", "description"] v
  return {
    name := ← r.required "name" Json.str?
    expr := ← r.required "expr" Json.str?
    dataType := ← r.defaulted "data_type" "" Json.str?
    description := ← r.defaulted "description" "" Json.str? }

def shape : Shape :=
  .record "ModelDimension" [("name", true, .text), ("expr", true, .text),
    ("data_type", false, .text), ("description", false, .text)]

end Column

namespace LogicalTable

/-- A primary key as a record of its columns. -/
def keyToJson (columns : List String) : Json := .obj [("columns", Json.ofTexts columns)]

def keyOfJson? (v : Json) : Option (List String) := do
  let r ← Json.Record.of? ["columns"] v
  r.required "columns" (Json.listOf Json.str?)

def keyShape : Shape := .record "PrimaryKey" [("columns", true, .list .text)]

def toJson (t : LogicalTable) : Json :=
  .obj ([("name", .str t.name)] ++ descriptionField t.description
    ++ [("base_table", t.base.toJson)]
    ++ ((t.primaryKey.map fun key => ("primary_key", keyToJson key)).toList)
    ++ [("dimensions", .arr (t.dimensions.map Column.toJson))])

def ofJson? (v : Json) : Option LogicalTable := do
  let r ← Json.Record.of? ["name", "description", "base_table", "primary_key", "dimensions"] v
  return {
    name := ← r.required "name" Json.str?
    description := ← r.defaulted "description" "" Json.str?
    base := ← r.required "base_table" BaseTable.ofJson?
    primaryKey := ← r.defaulted "primary_key" none (Json.orNull keyOfJson?)
    dimensions := ← r.defaulted "dimensions" [] (Json.listOf Column.ofJson?) }

def shape : Shape :=
  .record "LogicalTable" [("name", true, .text), ("description", false, .text),
    ("base_table", true, BaseTable.shape), ("primary_key", false, .optional keyShape),
    ("dimensions", false, .list Column.shape)]

end LogicalTable

namespace ColumnPair

def toJson (p : ColumnPair) : Json :=
  .obj [("left_column", .str p.left), ("right_column", .str p.right)]

def ofJson? (v : Json) : Option ColumnPair := do
  let r ← Json.Record.of? ["left_column", "right_column"] v
  return {
    left := ← r.required "left_column" Json.str?
    right := ← r.required "right_column" Json.str? }

def shape : Shape :=
  .record "RelationshipColumn" [("left_column", true, .text), ("right_column", true, .text)]

end ColumnPair

namespace Join

def toJson (j : Join) : Json :=
  .obj [("name", .str j.name), ("left_table", .str j.leftTable), ("right_table", .str j.rightTable),
    ("relationship_columns", .arr (j.columns.map ColumnPair.toJson)),
    ("join_type", .str j.joinType), ("relationship_type", .str j.relationshipType)]

def ofJson? (v : Json) : Option Join := do
  let r ← Json.Record.of? ["name", "left_table", "right_table", "relationship_columns",
    "join_type", "relationship_type"] v
  return {
    name := ← r.required "name" Json.str?
    leftTable := ← r.required "left_table" Json.str?
    rightTable := ← r.required "right_table" Json.str?
    columns := ← r.defaulted "relationship_columns" [] (Json.listOf ColumnPair.ofJson?)
    joinType := ← r.defaulted "join_type" "" Json.str?
    relationshipType := ← r.defaulted "relationship_type" "" Json.str? }

def shape : Shape :=
  .record "ModelRelationship" [("name", true, .text), ("left_table", true, .text),
    ("right_table", true, .text), ("relationship_columns", false, .list ColumnPair.shape),
    ("join_type", false, .text), ("relationship_type", false, .text)]

end Join

namespace Fact

def toJson (f : Fact) : Json :=
  .obj ([("name", .str f.name), ("expr", .str f.expr), ("aggregation", .str f.aggregation),
      ("grain", Json.ofTexts f.grain)]
    ++ ((f.format.map fun format => ("format", Json.str format)).toList)
    ++ descriptionField f.description)

def ofJson? (v : Json) : Option Fact := do
  let r ← Json.Record.of? ["name", "expr", "aggregation", "grain", "format", "description"] v
  return {
    name := ← r.required "name" Json.str?
    expr := ← r.required "expr" Json.str?
    aggregation := ← r.defaulted "aggregation" "" Json.str?
    grain := ← r.defaulted "grain" [] (Json.listOf Json.str?)
    format := ← r.defaulted "format" none (Json.orNull Json.str?)
    description := ← r.defaulted "description" "" Json.str? }

def shape : Shape :=
  .record "ModelFact" [("name", true, .text), ("expr", true, .text), ("aggregation", false, .text),
    ("grain", false, .list .text), ("format", false, .optional .text),
    ("description", false, .text)]

end Fact

namespace Model

def toJson (m : Model) : Json :=
  .obj ([("name", .str m.name)] ++ descriptionField m.description
    ++ [("tables", .arr (m.tables.map LogicalTable.toJson)),
      ("relationships", .arr (m.relationships.map Join.toJson)),
      ("facts", .arr (m.facts.map Fact.toJson))])

def ofJson? (v : Json) : Option Model := do
  let r ← Json.Record.of? ["name", "description", "tables", "relationships", "facts"] v
  return {
    name := ← r.required "name" Json.str?
    description := ← r.defaulted "description" "" Json.str?
    tables := ← r.defaulted "tables" [] (Json.listOf LogicalTable.ofJson?)
    relationships := ← r.defaulted "relationships" [] (Json.listOf Join.ofJson?)
    facts := ← r.defaulted "facts" [] (Json.listOf Fact.ofJson?) }

def shape : Shape :=
  .record "SemanticModel" [("name", true, .text), ("description", false, .text),
    ("tables", false, .list LogicalTable.shape), ("relationships", false, .list Join.shape),
    ("facts", false, .list Fact.shape)]

end Model
end SemanticLayer
