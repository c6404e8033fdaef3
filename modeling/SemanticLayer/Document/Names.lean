import SemanticLayer.Document.Scope
/-!
The names and words of a document: no two records of a list have the same name, words are of the
vocabulary, identifiers are properties, and a metric has a grain.
-/
namespace SemanticLayer.Document

open Json (Pointer)

/-- The names met so far, each with the index of the first entry that has it. -/
abbrev FirstSeen := List (String × Nat)

/-- Goes through entries with their indices. What is reported of an entry may depend on its name and on the
first entry with that name, if it is not the first one; entries without a name are passed over. -/
def reportNamed (report : Nat → Json → String → Option Nat → List Finding) :
    FirstSeen → List (Json × Nat) → List Finding
  | _, [] => []
  | seen, (entry, index) :: rest =>
    match entry.text? "name" with
    | none => reportNamed report seen rest
    | some name =>
      report index entry name (Keyed.get? name seen)
        ++ reportNamed report (Keyed.insertNew name index seen) rest

/-- The records of a list that have the name of an earlier one. -/
def duplicateNames (key kind : String) (root : Json) : List Finding :=
  reportNamed (fun index _ name first =>
    match first with
    | none => []
    | some first =>
      [findingOf s!"Duplicate {kind} name '{name}' (first defined at index {first})"
        [key, toString index, "name"] (.str name)]) [] (root.items key).zipIdx

/-- The name and the type of a property of an object. Properties without a name are left to the
grammar. -/
def propertyNames (object : String) (place : Pointer) (index : Nat) (property : Json)
    (name : String) (first : Option Nat) : List Finding :=
  let place := place ++ ["properties", toString index]
  (match first with
    | none => []
    | some first =>
      [findingOf
        (s!"Duplicate property name '{name}' on object '{object}' "
          ++ s!"(first defined at index {first})") (place ++ ["name"]) (.str name)])
    ++ (match property.text? "type" with
      | none => []
      | some raw =>
        if (PropertyType.parse? raw).isSome then []
        else [findingOf
          (s!"Unknown type '{raw}' for property '{object}.{name}'. Allowed types: "
            ++ listed (PropertyType.all.map PropertyType.name))
          (place ++ ["type"]) (.str raw)])

/-- The properties and the identifiers of an object. -/
def objectNames (place : Pointer) (object : Json) : List Finding :=
  let properties := object.items "properties"
  let declared := properties.filterMap (·.text? "name")
  reportNamed (propertyNames (nameOf object) place) [] properties.zipIdx
    ++ checkItems (place ++ ["identifiers"]) (fun place identifier =>
      match identifier.str? with
      | none => []
      | some name =>
        if declared.contains name then []
        else [findingOf
          (s!"Identifier '{name}' is not a declared property of object '{nameOf object}'. "
            ++ s!"Available properties: {listed declared}") place (.str name)])
      (object.items "identifiers")

/-- The cardinality of a relationship. -/
def cardinalityWord (place : Pointer) (rel : Json) : List Finding :=
  match rel.text? "cardinality" with
  | none => []
  | some raw =>
    if (Cardinality.parse? raw).isSome then []
    else [findingOf
      (s!"Invalid cardinality '{raw}' for relationship '{nameOf rel}'. Allowed values: "
        ++ listed (Cardinality.all.map Cardinality.name))
      (place ++ ["cardinality"]) (.str raw)]

/-- The grain and the kind of a metric. -/
def metricWords (place : Pointer) (metric : Json) : List Finding :=
  (match metric.get? "grain" with
    | some (.arr []) =>
      [finding s!"Metric '{nameOf metric}' must declare at least one grain object"
        (place ++ ["grain"])]
    | _ => [])
    ++ (match metric.text? "type" with
      | none => []
      | some raw =>
        if (MetricType.parse? raw).isSome then []
        else [findingOf
          (s!"Unknown metric type '{raw}' for metric '{nameOf metric}'. Allowed types: "
            ++ "sum, count, count_distinct, average, min, max, custom")
          (place ++ ["type"]) (.str raw)])

/-- The names and words of a document. -/
def names (root : Json) : List Finding :=
  duplicateNames "objects" "object" root
    ++ duplicateNames "relationships" "relationship" root
    ++ duplicateNames "metrics" "metric" root
    ++ duplicateNames "dimensions" "dimension" root
    ++ checkItems ["objects"] objectNames (root.items "objects")
    ++ checkItems ["relationships"] cardinalityWord (root.items "relationships")
    ++ checkItems ["metrics"] metricWords (root.items "metrics")

end SemanticLayer.Document
