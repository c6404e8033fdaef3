import SemanticLayer.Document.Field
import SemanticLayer.Ontology.Basic
/-!
The objects that a document declares with their properties, and the references to them: the two
ends of a relationship, the grain of a metric and the source of a dimension. Where a mapping is
given, also the keys of joins and of the tables of the mapping are references.
-/
namespace SemanticLayer.Document

open Json (Pointer)

/-- The declared objects in the order of their names, each with the names of its properties. Of
objects with the same name the first one counts. -/
abbrev Scope := List (String × List String)

/-- The names with a comma between them, or a word for none. -/
def listed (names : List String) : String :=
  let joined := Text.join ", " names
  if joined.isEmpty then "(none)" else joined

namespace Scope

/-- The objects that a document declares. -/
def ofDocument (root : Json) : Scope :=
  (root.items "objects").foldl (fun scope object =>
    match object.text? "name" with
    | some name =>
      Keyed.insertNew name ((object.items "properties").filterMap (·.text? "name")) scope
    | none => scope) []

/-- Whether an object is declared. -/
def hasObject (s : Scope) (name : String) : Bool := (Keyed.get? name s).isSome

/-- The properties of an object, none if it is not declared. -/
def properties (s : Scope) (object : String) : List String := (Keyed.get? object s).getD []

/-- Whether an object is declared with a property. -/
def hasProperty (s : Scope) (object property : String) : Bool :=
  (s.properties object).contains property

/-- The declared objects, as messages list them. -/
def objectList (s : Scope) : String := listed (s.map (·.1))

/-- The properties of an object, as messages list them. -/
def propertyList (s : Scope) (object : String) : String := listed (s.properties object)

end Scope

/-- One end of a relationship. -/
def endReference (scope : Scope) (place : Pointer) (rel : Json) (key role : String) :
    List Finding :=
  match rel.text? key with
  | none => []
  | some object =>
    if scope.hasObject object then []
    else [findingOf
      (s!"Relationship '{nameOf rel}' references unknown {role} object '{object}'. "
        ++ s!"Available objects: {scope.objectList}")
      (place ++ [key]) (.str object)]

/-- The two ends of a relationship. -/
def relationshipReferences (scope : Scope) (place : Pointer) (rel : Json) : List Finding :=
  endReference scope place rel "from" "source" ++ endReference scope place rel "to" "target"

/-- The objects in the grain of a metric. -/
def grainReferences (scope : Scope) (place : Pointer) (metric : Json) : List Finding :=
  checkItems (place ++ ["grain"]) (fun place entry =>
    match entry.str? with
    | none => []
    | some object =>
      if scope.hasObject object then []
      else [findingOf
        (s!"Metric '{nameOf metric}' grain references unknown object '{object}'. "
          ++ s!"Available objects: {scope.objectList}")
        place (.str object)]) (metric.items "grain")

/-- The source of a dimension. -/
def sourceReference (scope : Scope) (place : Pointer) (dim : Json) : List Finding :=
  match dim.text? "sourceProperty" with
  | none => []
  | some source =>
    match splitReference? source with
    | none => []
    | some (object, property) =>
      let place := place ++ ["sourceProperty"]
      if !scope.hasObject object then
        [findingOf
          (s!"Dimension '{nameOf dim}' references unknown object '{object}'. "
            ++ s!"Available objects: {scope.objectList}") place (.str source)]
      else if !scope.hasProperty object property then
        [findingOf
          (s!"Dimension '{nameOf dim}' references unknown property '{property}' on object "
            ++ s!"'{object}'. Available properties: {scope.propertyList object}")
          place (.str source)]
      else []

/-- The references of a document to its objects and their properties. -/
def references (scope : Scope) (root : Json) : List Finding :=
  checkItems ["relationships"] (relationshipReferences scope) (root.items "relationships")
    ++ checkItems ["metrics"] (grainReferences scope) (root.items "metrics")
    ++ checkItems ["dimensions"] (sourceReference scope) (root.items "dimensions")

/-- A property that a relationship joins by, on an object that is declared. -/
def joinKeyReference (scope : Scope) (rel : Json) (place : Pointer) (object property : String) :
    List Finding :=
  if !scope.hasObject object || scope.hasProperty object property then []
  else [findingOf
    (s!"Join key '{property}' not found on object '{object}' for relationship '{nameOf rel}'. "
      ++ s!"Available properties on {object}: {scope.propertyList object}")
    place (.str property)]

/-- The join keys of a relationship whose two ends are texts. -/
def joinKeyReferences (scope : Scope) (place : Pointer) (rel : Json) : List Finding :=
  match rel.text? "from", rel.text? "to" with
  | some source, some target =>
    checkItems (place ++ ["joinKeys"]) (fun place pair =>
      match pair.textPair? with
      | some (left, right) =>
        joinKeyReference scope rel (place ++ ["0"]) source left
          ++ joinKeyReference scope rel (place ++ ["1"]) target right
      | none => []) (rel.items "joinKeys")
  | _, _ => []

/-- The objects that the tables of a mapping are for. -/
def tableReferences (scope : Scope) (mapping : Json) : List Finding :=
  (((mapping.get? "tableMappings").bind Json.obj?).getD []).flatMap fun (key, _) =>
    if scope.hasObject key then []
    else [findingOf
      (s!"Table mapping references unknown object '{key}'. "
        ++ s!"Available objects: {scope.objectList}")
      ["snowflake", "tableMappings", key] (.str key)]

/-- The references that matter only where a mapping is given. -/
def mappingReferences (scope : Scope) (root : Json) : List Finding :=
  match (root.get? "snowflake").filter Json.isObj with
  | none => []
  | some mapping =>
    checkItems ["relationships"] (joinKeyReferences scope) (root.items "relationships")
      ++ tableReferences scope mapping

end SemanticLayer.Document
