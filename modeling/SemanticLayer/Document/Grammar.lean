import SemanticLayer.Document.Field
import SemanticLayer.Ontology.Basic
/-!
The grammar of documents: which fields each record has and of what kind they are. Every record is
checked whatever is wrong with the others.
-/
namespace SemanticLayer.Document

open Json (Pointer)

/-- A text that stands in an array. -/
def itemText (message : String) (place : Pointer) (v : Json) : List Finding :=
  if v.isStr then [] else [findingOf message place v]

/-- A property of an object. -/
def propertyGrammar (place : Pointer) (v : Json) : List Finding :=
  if v.isObj then
    requireName "Property" place v
      ++ (match v.get? "type" with
        | none => [finding "Property is missing required field 'type'" (place ++ ["type"])]
        | some (.str _) => []
        | some other => [findingOf "Property type must be a string" (place ++ ["type"]) other])
      ++ allowText "description" place v
      ++ allowFlag "nullable" place v
      ++ allowFlag "required" place v
  else [findingOfKind "Property entry must be a JSON object" place v]

/-- An object. -/
def objectGrammar (place : Pointer) (v : Json) : List Finding :=
  if v.isObj then
    requireName "Object" place v
      ++ allowText "description" place v
      ++ allowText "table" place v
      ++ allowText "schema" place v
      ++ allowText "database" place v
      ++ allowArray "identifiers" place v (itemText "Identifier must be a string")
      ++ requireArray "properties"
        s!"Object '{nameOf v}' is missing required field 'properties'"
        place v propertyGrammar
  else [findingOfKind "Object entry must be a JSON object" place v]

/-- A pair of the properties that a relationship joins. -/
def joinKeyGrammar (place : Pointer) (v : Json) : List Finding :=
  match v with
  | .arr [.str _, .str _] => []
  | _ => [findingOf "Join key must be a [fromProperty, toProperty] pair of strings" place v]

/-- A relationship. -/
def relationshipGrammar (place : Pointer) (v : Json) : List Finding :=
  if v.isObj then
    requireName "Relationship" place v
      ++ requireText "from" place v
      ++ requireText "to" place v
      ++ allowText "cardinality" place v
      ++ allowText "description" place v
      ++ requireArray "joinKeys" "Relationship is missing required field 'joinKeys'" place v
        joinKeyGrammar
  else [findingOfKind "Relationship entry must be a JSON object" place v]

/-- A metric. -/
def metricGrammar (place : Pointer) (v : Json) : List Finding :=
  if v.isObj then
    requireName "Metric" place v
      ++ requireText "expression" place v
      ++ allowText "type" place v
      ++ allowText "format" place v
      ++ allowText "description" place v
      ++ requireArray "grain" "Metric is missing required field 'grain'" place v
        (itemText "Grain entry must be an object name")
  else [findingOfKind "Metric entry must be a JSON object" place v]

/-- A dimension. -/
def dimensionGrammar (place : Pointer) (v : Json) : List Finding :=
  if v.isObj then
    let source := place ++ ["sourceProperty"]
    requireName "Dimension" place v
      ++ allowText "type" place v
      ++ allowText "description" place v
      ++ (match v.get? "sourceProperty" with
        | none => [finding "Dimension is missing required field 'sourceProperty'" source]
        | some (.str raw) =>
          if (splitReference? raw).isSome then []
          else [findingOf "Field 'sourceProperty' must have the form 'Object.property'" source
            (.str raw)]
        | some other => [findingOf "Field 'sourceProperty' must be a string" source other])
  else [findingOfKind "Dimension entry must be a JSON object" place v]

/-- The tables of a mapping. -/
def tablesGrammar (v : Json) : List Finding :=
  let place := ["snowflake", "tableMappings"]
  match v.get? "tableMappings" with
  | none => []
  | some (.obj entries) =>
    entries.flatMap fun (key, table) =>
      itemText "Table mapping value must be a table name" (place ++ [key]) table
  | some other => [findingOfKind "Field 'tableMappings' must be an object" place other]

/-- The mapping of a document. -/
def mappingGrammar (v : Json) : List Finding :=
  let place := ["snowflake"]
  if v.isObj then
    requireText "database" place v
      ++ requireText "schema" place v
      ++ allowText "warehouse" place v
      ++ tablesGrammar v
  else [findingOfKind "Field 'snowflake' must be an object" place v]

/-- The objects of a document, of which there must be one. -/
def objectsGrammar (root : Json) : List Finding :=
  match root.get? "objects" with
  | some (.arr []) => [finding "Field 'objects' must contain at least one object" ["objects"]]
  | _ => requireArray "objects" "Missing required field 'objects'" [] root objectGrammar

/-- A document. -/
def grammar (root : Json) : List Finding :=
  if root.isObj then
    requireText "version" [] root
      ++ allowText "name" [] root
      ++ allowText "description" [] root
      ++ objectsGrammar root
      ++ allowArray "relationships" [] root relationshipGrammar
      ++ allowArray "metrics" [] root metricGrammar
      ++ allowArray "dimensions" [] root dimensionGrammar
      ++ ((root.get? "snowflake").map mappingGrammar).getD []
  else [findingOfKind "Document must be a JSON object" [] root]

end SemanticLayer.Document
