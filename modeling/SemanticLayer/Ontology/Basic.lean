import SemanticLayer.Ontology.Vocabulary
import SemanticLayer.Text.Blank
import SemanticLayer.Text.Lower
/-!
An ontology: objects with properties, the relationships that join them, the metrics computed over
them and the dimensions that expose their properties. An optional mapping says where the objects
are stored. Names need not be distinct; where one is looked up, its first bearer counts.
-/
namespace SemanticLayer

/-- A property of an object. -/
structure Property where
  name : String
  type : PropertyType
  description : String
  nullable : Bool
  required : Bool
  deriving DecidableEq, Repr

/-- A kind of thing, with the properties that identify it and where it is stored, if that is
declared for it alone. -/
structure Object where
  name : String
  description : String
  identifiers : List String
  properties : List Property
  table : Option String
  schema : Option String
  database : Option String
  deriving DecidableEq, Repr

/-- A join of two objects by pairs of their properties. -/
structure Relationship where
  name : String
  source : String
  target : String
  joinKeys : List (String × String)
  cardinality : Cardinality
  description : String
  deriving DecidableEq, Repr

/-- An expression that is computed for each combination of the objects in its grain. -/
structure Metric where
  name : String
  expression : String
  grain : List String
  type : MetricType
  format : Option String
  description : String
  deriving DecidableEq, Repr

/-- A property under a name of its own. -/
structure Dimension where
  name : String
  sourceProperty : String
  type : DimensionType
  description : String
  deriving DecidableEq, Repr

/-- Where the objects of an ontology are stored. -/
structure Mapping where
  database : String
  schema : String
  warehouse : Option String
  tables : List (String × String)
  deriving DecidableEq, Repr

/-- An ontology. -/
structure Ontology where
  version : String
  name : String
  description : String
  objects : List Object
  relationships : List Relationship
  metrics : List Metric
  dimensions : List Dimension
  mapping : Option Mapping
  deriving DecidableEq, Repr

namespace Object

/-- The property of a name. -/
def property? (o : Object) (name : String) : Option Property :=
  o.properties.find? (·.name = name)

/-- Whether an object has a property of a name. -/
def hasProperty (o : Object) (name : String) : Bool := (o.property? name).isSome

end Object

/-- The object and the property of a reference, which are parted by its first point. -/
def splitReference? (raw : String) : Option (String × String) :=
  let cs := raw.toList
  let object := cs.takeWhile (· ≠ '.')
  match cs.dropWhile (· ≠ '.') with
  | '.' :: property =>
    if object.isEmpty || property.isEmpty then none
    else some (String.ofList object, String.ofList property)
  | _ => none

/-- The object and the property that a dimension exposes. -/
def Dimension.source? (d : Dimension) : Option (String × String) :=
  splitReference? d.sourceProperty

namespace Ontology

/-- The object of a name. -/
def object? (o : Ontology) (name : String) : Option Object :=
  o.objects.find? (·.name = name)

/-- The names of the objects. -/
def objectNames (o : Ontology) : List String := o.objects.map (·.name)

/-- The table that holds an object: its own, else that of the mapping, else its name in lower
case. -/
def physicalTable (o : Ontology) (object : Object) : String :=
  match object.table with
  | some table => table
  | none =>
    match o.mapping.bind fun m => Keyed.get? object.name m.tables with
    | some table => table
    | none => Text.lower object.name

/-- The database that holds an object: its own, else that of the mapping. An empty name is none. -/
def physicalDatabase? (o : Ontology) (object : Object) : Option String :=
  (object.database <|> o.mapping.map (·.database)).bind Text.unlessEmpty

/-- The schema that holds an object: its own, else that of the mapping. An empty name is none. -/
def physicalSchema? (o : Ontology) (object : Object) : Option String :=
  (object.schema <|> o.mapping.map (·.schema)).bind Text.unlessEmpty

end Ontology
end SemanticLayer
