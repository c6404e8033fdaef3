import SemanticLayer.Keyed
import SemanticLayer.Text.Ascii
import SemanticLayer.Text.Blank
/-!
The words of an ontology: types of properties, cardinalities of relationships, kinds of metrics and
kinds of dimensions. A word is recognised in any letter case and with blanks around it; metrics and
dimensions also have other spellings. Each word has one name, under which it is written.
-/
namespace SemanticLayer

/-- A word as it is looked up: without blanks around it and in lower case. -/
def foldWord (raw : String) : String := Text.asciiLower (Text.trim raw)

/-- The type of a property. -/
inductive PropertyType where
  | string | integer | number | decimal | boolean | date | timestamp | time
  deriving DecidableEq, Repr

namespace PropertyType

/-- All types, in the order in which messages list them. -/
def all : List PropertyType :=
  [.string, .integer, .number, .decimal, .boolean, .date, .timestamp, .time]

def name : PropertyType → String
  | .string => "string"
  | .integer => "integer"
  | .number => "number"
  | .decimal => "decimal"
  | .boolean => "boolean"
  | .date => "date"
  | .timestamp => "timestamp"
  | .time => "time"

/-- The column type that holds a property in the warehouse. -/
def warehouseType : PropertyType → String
  | .string => "VARCHAR"
  | .integer => "NUMBER(38,0)"
  | .number => "FLOAT"
  | .decimal => "NUMBER(38,9)"
  | .boolean => "BOOLEAN"
  | .date => "DATE"
  | .timestamp => "TIMESTAMP_NTZ"
  | .time => "TIME"

/-- The type that a word of a document names. -/
def parse? (raw : String) : Option PropertyType :=
  all.find? (·.name == foldWord raw)

/-- The wording for a word that is no type. -/
def unknown (raw : String) : String := s!"unknown property type: {raw}"

end PropertyType

/-- How many rows of each side a relationship joins. -/
inductive Cardinality where
  | oneToOne | oneToMany | manyToOne | manyToMany
  deriving DecidableEq, Repr

namespace Cardinality

/-- All cardinalities, in the order in which messages list them. -/
def all : List Cardinality := [.oneToOne, .oneToMany, .manyToOne, .manyToMany]

def name : Cardinality → String
  | .oneToOne => "one_to_one"
  | .oneToMany => "one_to_many"
  | .manyToOne => "many_to_one"
  | .manyToMany => "many_to_many"

/-- How strict a cardinality is; the higher, the fewer rows may match. -/
def rank : Cardinality → Nat
  | .manyToMany => 0
  | .manyToOne => 1
  | .oneToMany => 1
  | .oneToOne => 2

/-- The cardinality that a word of a document names. -/
def parse? (raw : String) : Option Cardinality :=
  all.find? (·.name == foldWord raw)

/-- The wording for a word that is no cardinality. -/
def unknown (raw : String) : String := s!"unknown cardinality: {raw}"

/-- The join that a relationship makes: only pairs of single rows need a partner on both sides. -/
def joinType : Cardinality → String
  | .oneToOne => "inner"
  | .oneToMany => "left_outer"
  | .manyToOne => "left_outer"
  | .manyToMany => "left_outer"

end Cardinality

/-- How a metric is computed from rows. -/
inductive MetricType where
  | sum | count | countDistinct | average | min | max | custom
  deriving DecidableEq, Repr

namespace MetricType

def name : MetricType → String
  | .sum => "sum"
  | .count => "count"
  | .countDistinct => "count_distinct"
  | .average => "average"
  | .min => "min"
  | .max => "max"
  | .custom => "custom"

/-- The aggregation of the fact that a metric becomes. -/
def aggregation : MetricType → String
  | .sum => "sum"
  | .count => "count"
  | .countDistinct => "count_distinct"
  | .average => "avg"
  | .min => "min"
  | .max => "max"
  | .custom => "custom"

/-- All spellings of the kinds of metrics. -/
def spellings : List (String × MetricType) :=
  [("sum", .sum), ("count", .count),
    ("count_distinct", .countDistinct), ("distinct_count", .countDistinct),
    ("average", .average), ("avg", .average), ("mean", .average),
    ("min", .min), ("minimum", .min), ("max", .max), ("maximum", .max),
    ("custom", .custom), ("derived", .custom), ("ratio", .custom)]

/-- The kind that a word of a document names; a hyphen counts as an underscore. -/
def parse? (raw : String) : Option MetricType :=
  Keyed.get? (String.ofList (Text.replaceChar '-' ['_'] (foldWord raw).toList)) spellings

end MetricType

/-- What kind of values a dimension has. -/
inductive DimensionType where
  | categorical | temporal | numeric
  deriving DecidableEq, Repr

namespace DimensionType

def name : DimensionType → String
  | .categorical => "categorical"
  | .temporal => "temporal"
  | .numeric => "numeric"

/-- All spellings of the kinds of dimensions. -/
def spellings : List (String × DimensionType) :=
  [("categorical", .categorical), ("category", .categorical), ("string", .categorical),
    ("temporal", .temporal), ("time", .temporal), ("date", .temporal),
    ("numeric", .numeric), ("number", .numeric)]

/-- The kind that a word of a document names. -/
def parse? (raw : String) : Option DimensionType :=
  Keyed.get? (foldWord raw) spellings

end DimensionType
end SemanticLayer
