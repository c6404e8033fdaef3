import SemanticLayer.Digest.Sha256
import SemanticLayer.Ontology.Codec
/-!
The ontology that a document describes. Every document has one: what is missing or of the wrong
type gives way to a default, and what is no record is left out. All lists are sorted, so the order
in which a document declares things does not matter; the fingerprint of an ontology is the hash of
its text.
-/
namespace SemanticLayer

/-- The text of a record, which decides the order of records with the same name. -/
def Property.canonical (p : Property) : String := p.toJson.compact
def Object.canonical (o : Object) : String := o.toJson.compact
def Relationship.canonical (r : Relationship) : String := r.toJson.compact
def Metric.canonical (m : Metric) : String := m.toJson.compact
def Dimension.canonical (d : Dimension) : String := d.toJson.compact
def Ontology.canonical (o : Ontology) : String := o.toJson.compact

namespace Normalize

/-- Version of an ontology that states none. -/
def defaultVersion : String := "0.0.0"

/-- Name of an ontology that states none. -/
def defaultName : String := "ontology"

def property (raw : Json) : Property where
  name := raw.textOr "name" ""
  type := ((raw.text? "type").bind PropertyType.parse?).getD .string
  description := raw.textOr "description" ""
  nullable := raw.flagOr "nullable" true
  required := raw.flagOr "required" false

def object (raw : Json) : Object where
  name := raw.textOr "name" ""
  description := raw.textOr "description" ""
  identifiers := textSet (raw.texts "identifiers")
  properties := sortedBy Property.name Property.canonical ((raw.records "properties").map property)
  table := raw.nonEmptyText? "table"
  schema := raw.nonEmptyText? "schema"
  database := raw.nonEmptyText? "database"

def relationship (raw : Json) : Relationship where
  name := raw.textOr "name" ""
  source := raw.textOr "from" ""
  target := raw.textOr "to" ""
  joinKeys := sortedBy Prod.fst Prod.snd ((raw.items "joinKeys").filterMap Json.textPair?)
  cardinality := ((raw.text? "cardinality").bind Cardinality.parse?).getD .manyToOne
  description := raw.textOr "description" ""

def metric (raw : Json) : Metric where
  name := raw.textOr "name" ""
  expression := raw.textOr "expression" ""
  grain := textSet (raw.texts "grain")
  type := ((raw.text? "type").bind MetricType.parse?).getD .custom
  format := raw.nonEmptyText? "format"
  description := raw.textOr "description" ""

def dimension (raw : Json) : Dimension where
  name := raw.textOr "name" ""
  sourceProperty := raw.textOr "sourceProperty" ""
  type := ((raw.text? "type").bind DimensionType.parse?).getD .categorical
  description := raw.textOr "description" ""

/-- The tables of the entries of a mapping, and those that objects declare for themselves and the
entries do not mention; of objects with the same name the first one counts. -/
def tables (raw : Json) (objects : List Object) : List (String × String) :=
  let entries := ((raw.get? "tableMappings").bind Json.obj?).getD []
  let declared := Keyed.ofList (entries.filterMap fun (k, v) => v.str?.map ((k, ·)))
  objects.foldl (fun tables o => match o.table with
    | some table => Keyed.insertNew o.name table tables
    | none => tables) declared

def mapping (objects : List Object) (raw : Json) : Mapping where
  database := raw.textOr "database" ""
  schema := raw.textOr "schema" ""
  warehouse := raw.nonEmptyText? "warehouse"
  tables := tables raw objects

end Normalize

/-- The ontology that a document describes. -/
def normalize (root : Json) : Ontology :=
  let objects := sortedBy Object.name Object.canonical
    ((root.records "objects").map Normalize.object)
  { version := root.textOr "version" Normalize.defaultVersion
    name := root.textOr "name" Normalize.defaultName
    description := root.textOr "description" ""
    objects := objects
    relationships := sortedBy Relationship.name Relationship.canonical
      ((root.records "relationships").map Normalize.relationship)
    metrics := sortedBy Metric.name Metric.canonical
      ((root.records "metrics").map Normalize.metric)
    dimensions := sortedBy Dimension.name Dimension.canonical
      ((root.records "dimensions").map Normalize.dimension)
    mapping := ((root.get? "snowflake").filter Json.isObj).map (Normalize.mapping objects) }

/-- The hash of the text of an ontology. -/
def Ontology.fingerprint (o : Ontology) : String := Digest.hashText o.canonical

end SemanticLayer
