import SemanticLayer.Json.Record
import SemanticLayer.Json.Writer
import SemanticLayer.Ontology.Basic
/-!
Ontologies as JSON. Fields are written in the order of their declaration, so that a text belongs to
one ontology only; they are read by name or by position.
-/
namespace SemanticLayer

namespace PropertyType

def toJson (t : PropertyType) : Json := .str t.name

def ofJson? : Json → Option PropertyType :=
  Json.word? (all.map fun t => (t.name, t))

end PropertyType

namespace Cardinality

def toJson (c : Cardinality) : Json := .str c.name

def ofJson? : Json → Option Cardinality :=
  Json.word? (all.map fun c => (c.name, c))

end Cardinality

namespace MetricType

def toJson (t : MetricType) : Json := .str t.name

def ofJson? : Json → Option MetricType :=
  Json.word? ([sum, count, countDistinct, average, min, max, custom].map fun t => (t.name, t))

end MetricType

namespace DimensionType

def toJson (t : DimensionType) : Json := .str t.name

def ofJson? : Json → Option DimensionType :=
  Json.word? ([categorical, temporal, numeric].map fun t => (t.name, t))

end DimensionType

namespace Property

def toJson (p : Property) : Json :=
  .obj [("name", .str p.name), ("type", p.type.toJson), ("description", .str p.description),
    ("nullable", .bool p.nullable), ("required", .bool p.required)]

def ofJson? (v : Json) : Option Property := do
  let r ← Json.Record.of? ["name", "type", "description", "nullable", "required"] v
  return {
    name := ← r.required "name" Json.str?
    type := ← r.required "type" PropertyType.ofJson?
    description := ← r.required "description" Json.str?
    nullable := ← r.required "nullable" Json.bool?
    required := ← r.required "required" Json.bool? }

end Property

namespace Object

def toJson (o : Object) : Json :=
  .obj [("name", .str o.name), ("description", .str o.description),
    ("identifiers", Json.ofTexts o.identifiers),
    ("properties", .arr (o.properties.map Property.toJson)),
    ("table", Json.ofText? o.table), ("schema", Json.ofText? o.schema),
    ("database", Json.ofText? o.database)]

def ofJson? (v : Json) : Option Object := do
  let r ← Json.Record.of?
    ["name", "description", "identifiers", "properties", "table", "schema", "database"] v
  return {
    name := ← r.required "name" Json.str?
    description := ← r.required "description" Json.str?
    identifiers := ← r.required "identifiers" (Json.listOf Json.str?)
    properties := ← r.required "properties" (Json.listOf Property.ofJson?)
    table := ← r.optional "table" (Json.orNull Json.str?)
    schema := ← r.optional "schema" (Json.orNull Json.str?)
    database := ← r.optional "database" (Json.orNull Json.str?) }

end Object

namespace Relationship

def toJson (r : Relationship) : Json :=
  .obj [("name", .str r.name), ("from", .str r.source), ("to", .str r.target),
    ("join_keys", .arr (r.joinKeys.map fun (left, right) => Json.ofTexts [left, right])),
    ("cardinality", r.cardinality.toJson), ("description", .str r.description)]

def ofJson? (v : Json) : Option Relationship := do
  let r ← Json.Record.of? ["name", "from", "to", "join_keys", "cardinality", "description"] v
  return {
    name := ← r.required "name" Json.str?
    source := ← r.required "from" Json.str?
    target := ← r.required "to" Json.str?
    joinKeys := ← r.required "join_keys" (Json.listOf (Json.pairOf Json.str? Json.str?))
    cardinality := ← r.required "cardinality" Cardinality.ofJson?
    description := ← r.required "description" Json.str? }

end Relationship

namespace Metric

def toJson (m : Metric) : Json :=
  .obj [("name", .str m.name), ("expression", .str m.expression), ("grain", Json.ofTexts m.grain),
    ("type", m.type.toJson), ("format", Json.ofText? m.format),
    ("description", .str m.description)]

def ofJson? (v : Json) : Option Metric := do
  let r ← Json.Record.of? ["name", "expression", "grain", "type", "format", "description"] v
  return {
    name := ← r.required "name" Json.str?
    expression := ← r.required "expression" Json.str?
    grain := ← r.required "grain" (Json.listOf Json.str?)
    type := ← r.required "type" MetricType.ofJson?
    format := ← r.optional "format" (Json.orNull Json.str?)
    description := ← r.required "description" Json.str? }

end Metric

namespace Dimension

def toJson (d : Dimension) : Json :=
  .obj [("name", .str d.name), ("source_property", .str d.sourceProperty),
    ("type", d.type.toJson), ("description", .str d.description)]

def ofJson? (v : Json) : Option Dimension := do
  let r ← Json.Record.of? ["name", "source_property", "type", "description"] v
  return {
    name := ← r.required "name" Json.str?
    sourceProperty := ← r.required "source_property" Json.str?
    type := ← r.required "type" DimensionType.ofJson?
    description := ← r.required "description" Json.str? }

end Dimension

namespace Mapping

def toJson (m : Mapping) : Json :=
  .obj [("database", .str m.database), ("schema", .str m.schema),
    ("warehouse", Json.ofText? m.warehouse),
    ("table_mappings", .obj (m.tables.map fun (name, table) => (name, .str table)))]

def ofJson? (v : Json) : Option Mapping := do
  let r ← Json.Record.of? ["database", "schema", "warehouse", "table_mappings"] v
  return {
    database := ← r.required "database" Json.str?
    schema := ← r.required "schema" Json.str?
    warehouse := ← r.optional "warehouse" (Json.orNull Json.str?)
    tables := ← r.required "table_mappings" (Json.mapOf Json.str?) }

end Mapping

namespace Ontology

def toJson (o : Ontology) : Json :=
  .obj [("version", .str o.version), ("name", .str o.name), ("description", .str o.description),
    ("objects", .arr (o.objects.map Object.toJson)),
    ("relationships", .arr (o.relationships.map Relationship.toJson)),
    ("metrics", .arr (o.metrics.map Metric.toJson)),
    ("dimensions", .arr (o.dimensions.map Dimension.toJson)),
    ("snowflake", (o.mapping.map Mapping.toJson).getD .null)]

def ofJson? (v : Json) : Option Ontology := do
  let r ← Json.Record.of? ["version", "name", "description", "objects", "relationships", "metrics",
    "dimensions", "snowflake"] v
  return {
    version := ← r.required "version" Json.str?
    name := ← r.required "name" Json.str?
    description := ← r.required "description" Json.str?
    objects := ← r.required "objects" (Json.listOf Object.ofJson?)
    relationships := ← r.required "relationships" (Json.listOf Relationship.ofJson?)
    metrics := ← r.required "metrics" (Json.listOf Metric.ofJson?)
    dimensions := ← r.required "dimensions" (Json.listOf Dimension.ofJson?)
    mapping := ← r.optional "snowflake" (Json.orNull Mapping.ofJson?) }

end Ontology
end SemanticLayer
