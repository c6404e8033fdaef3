import SemanticLayer.Ontology.Basic
/-!
Semantic models: logical tables over the tables of a warehouse, the relationships that join them
and the facts computed over them. A model belongs to a view, which has a place in the warehouse.
-/
namespace SemanticLayer

/-- A semantic view and where it is. -/
structure View where
  database : String
  schema : String
  name : String
  deriving DecidableEq, Repr

namespace View

/-- The platform on which views are deployed. -/
def platform : String := "snowflake"

/-- The full name of the schema of a view. -/
def qualifiedSchema (v : View) : String := s!"{v.database}.{v.schema}"

/-- The full name of a view. -/
def qualifiedName (v : View) : String := s!"{v.database}.{v.schema}.{v.name}"

/-- The full name of a view with its platform. -/
def identifier (v : View) : String := s!"{platform}:{v.qualifiedName}"

end View

/-- The table of the warehouse that a logical table stands for. -/
structure BaseTable where
  database : String
  schema : String
  table : String
  deriving DecidableEq, Repr, Inhabited

/-- A column of a logical table. -/
structure Column where
  name : String
  expr : String
  dataType : String
  description : String
  deriving DecidableEq, Repr

/-- A table of a model. -/
structure LogicalTable where
  name : String
  description : String
  base : BaseTable
  primaryKey : Option (List String)
  dimensions : List Column
  deriving DecidableEq, Repr

/-- A pair of columns that a relationship joins. -/
structure ColumnPair where
  left : String
  right : String
  deriving DecidableEq, Repr

/-- A join of two logical tables. -/
structure Join where
  name : String
  leftTable : String
  rightTable : String
  columns : List ColumnPair
  joinType : String
  relationshipType : String
  deriving DecidableEq, Repr

/-- An expression that is aggregated. -/
structure Fact where
  name : String
  expr : String
  aggregation : String
  grain : List String
  format : Option String
  description : String
  deriving DecidableEq, Repr

/-- A semantic model. -/
structure Model where
  name : String
  description : String
  tables : List LogicalTable
  relationships : List Join
  facts : List Fact
  deriving DecidableEq, Repr

namespace Model

/-- A property as a column of its object's table. -/
def columnOfProperty (p : Property) : Column :=
  ⟨p.name, p.name, p.type.warehouseType, p.description⟩

/-- The columns for the properties of an object that do not identify it. -/
def propertyColumns (o : Object) : List Column :=
  (o.properties.filter fun p => !o.identifiers.contains p.name).map columnOfProperty

/-- Adds the column that a dimension exposes, if it belongs to the object and its name is free. -/
def addDimension (o : Object) (columns : List Column) (d : Dimension) : List Column :=
  match d.source? with
  | none => columns
  | some (object, property) =>
    if object ≠ o.name ∨ columns.any (·.name = d.name) then columns
    else
      let dataType := ((o.property? property).map (·.type.warehouseType)).getD "VARCHAR"
      columns ++ [⟨d.name, property, dataType, d.description⟩]

/-- The columns of the table of an object, by name. -/
def columnsOf (ontology : Ontology) (o : Object) : List Column :=
  (ontology.dimensions.foldl (addDimension o) (propertyColumns o)).mergeSort
    fun a b => textLe a.name b.name

/-- The table of an object. What the ontology leaves open is taken from the place of the view. -/
def tableOf (ontology : Ontology) (view : View) (o : Object) : LogicalTable where
  name := o.name
  description := o.description
  base := {
    database := (ontology.physicalDatabase? o).getD view.database
    schema := (ontology.physicalSchema? o).getD view.schema
    table := ontology.physicalTable o }
  primaryKey := if o.identifiers.isEmpty then none else some o.identifiers
  dimensions := columnsOf ontology o

/-- The join that a relationship makes. -/
def joinOf (r : Relationship) : Join where
  name := r.name
  leftTable := r.source
  rightTable := r.target
  columns := r.joinKeys.map fun (left, right) => ⟨left, right⟩
  joinType := r.cardinality.joinType
  relationshipType := r.cardinality.name

/-- The fact that a metric becomes. -/
def factOf (m : Metric) : Fact where
  name := m.name
  expr := m.expression
  aggregation := m.type.aggregation
  grain := m.grain
  format := m.format
  description := m.description

/-- The model of an ontology for a view. -/
def build (ontology : Ontology) (view : View) : Model where
  name := view.name
  description := ontology.description
  tables := ontology.objects.map (tableOf ontology view)
  relationships := ontology.relationships.map joinOf
  facts := ontology.metrics.map factOf

end Model
end SemanticLayer
