import SemanticLayer.Json.Record
import SemanticLayer.Json.Writer
/-!
Differences between what an ontology declares and what is in the warehouse.
-/
namespace SemanticLayer

/-- What kind of difference it is. -/
inductive DriftKind where
  | columnMissing | columnRenamed | columnAdded | tableMissing | yamlDivergence
  | manualEditDetected
  deriving DecidableEq, Repr

namespace DriftKind

/-- All kinds of differences. -/
def all : List DriftKind :=
  [.columnMissing, .columnRenamed, .columnAdded, .tableMissing, .yamlDivergence,
    .manualEditDetected]

def name : DriftKind → String
  | .columnMissing => "column_missing"
  | .columnRenamed => "column_renamed"
  | .columnAdded => "column_added"
  | .tableMissing => "table_missing"
  | .yamlDivergence => "yaml_divergence"
  | .manualEditDetected => "manual_edit_detected"

def ofJson? : Json → Option DriftKind := Json.word? (all.map fun k => (k.name, k))

end DriftKind

/-- Where a difference was found: in the tables or in the semantic view. -/
inductive DriftArea where
  | mapping | semanticView
  deriving DecidableEq, Repr

namespace DriftArea

def name : DriftArea → String
  | .mapping => "mapping"
  | .semanticView => "semantic_view"

def ofJson? : Json → Option DriftArea :=
  Json.word? ([mapping, semanticView].map fun a => (a.name, a))

end DriftArea

/-- A difference. -/
structure DriftEvent where
  kind : DriftKind
  area : DriftArea
  element : String
  message : String
  details : Json
  deriving Repr, BEq

/-- All differences of an ontology. -/
structure DriftReport where
  ontology : String
  events : List DriftEvent
  deriving Repr

namespace DriftEvent

def toJson (e : DriftEvent) : Json :=
  .obj [("event_type", .str e.kind.name), ("drift_type", .str e.area.name),
    ("element", .str e.element), ("message", .str e.message), ("details", e.details)]

def ofJson? (v : Json) : Option DriftEvent := do
  let r ← Json.Record.of? ["event_type", "drift_type", "element", "message", "details"] v
  return {
    kind := ← r.required "event_type" DriftKind.ofJson?
    area := ← r.required "drift_type" DriftArea.ofJson?
    element := ← r.required "element" Json.str?
    message := ← r.required "message" Json.str?
    details := ← r.required "details" Json.any? }

end DriftEvent

namespace DriftReport

/-- Whether there is a difference. -/
def hasDrift (r : DriftReport) : Bool := !r.events.isEmpty

/-- How many differences there are of a kind. -/
def count (r : DriftReport) (kind : DriftKind) : Nat := (r.events.filter (·.kind = kind)).length

/-- The differences in an area. -/
def inArea (r : DriftReport) (area : DriftArea) : List DriftEvent :=
  r.events.filter (·.area = area)

def toJson (r : DriftReport) : Json :=
  .obj [("ontology", .str r.ontology), ("events", .arr (r.events.map DriftEvent.toJson))]

def ofJson? (v : Json) : Option DriftReport := do
  let r ← Json.Record.of? ["ontology", "events"] v
  return {
    ontology := ← r.required "ontology" Json.str?
    events := ← r.required "events" (Json.listOf DriftEvent.ofJson?) }

end DriftReport
end SemanticLayer
