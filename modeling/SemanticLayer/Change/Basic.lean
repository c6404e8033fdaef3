import SemanticLayer.Json.Record
import SemanticLayer.Json.Writer
/-!
Changes from one version of an ontology to the next. A change is breaking if something that was
there before can no longer be relied on.
-/
namespace SemanticLayer

/-- What kind of change it is. -/
inductive ChangeKind where
  | objectAdded | objectRemoved | objectDescriptionChanged
  | identifierAdded | identifierRemoved | identifierReplaced
  | propertyAdded | propertyRemoved | propertyTypeChanged | propertyDescriptionChanged
  | relationshipAdded | relationshipRemoved | relationshipEndpointsChanged
  | relationshipJoinKeysChanged | relationshipCardinalityTightened
  | relationshipCardinalityRelaxed | relationshipDescriptionChanged
  | metricAdded | metricRemoved | metricExpressionChanged | metricGrainChanged
  | metricDescriptionChanged
  | dimensionAdded | dimensionRemoved | dimensionDescriptionChanged
  deriving DecidableEq, Repr

namespace ChangeKind

def name : ChangeKind → String
  | .objectAdded => "object_added"
  | .objectRemoved => "object_removed"
  | .objectDescriptionChanged => "object_description_changed"
  | .identifierAdded => "identifier_added"
  | .identifierRemoved => "identifier_removed"
  | .identifierReplaced => "identifier_replaced"
  | .propertyAdded => "property_added"
  | .propertyRemoved => "property_removed"
  | .propertyTypeChanged => "property_type_changed"
  | .propertyDescriptionChanged => "property_description_changed"
  | .relationshipAdded => "relationship_added"
  | .relationshipRemoved => "relationship_removed"
  | .relationshipEndpointsChanged => "relationship_endpoints_changed"
  | .relationshipJoinKeysChanged => "relationship_join_keys_changed"
  | .relationshipCardinalityTightened => "relationship_cardinality_tightened"
  | .relationshipCardinalityRelaxed => "relationship_cardinality_relaxed"
  | .relationshipDescriptionChanged => "relationship_description_changed"
  | .metricAdded => "metric_added"
  | .metricRemoved => "metric_removed"
  | .metricExpressionChanged => "metric_expression_changed"
  | .metricGrainChanged => "metric_grain_changed"
  | .metricDescriptionChanged => "metric_description_changed"
  | .dimensionAdded => "dimension_added"
  | .dimensionRemoved => "dimension_removed"
  | .dimensionDescriptionChanged => "dimension_description_changed"

/-- All kinds of changes. -/
def all : List ChangeKind :=
  [.objectAdded, .objectRemoved, .objectDescriptionChanged,
    .identifierAdded, .identifierRemoved, .identifierReplaced,
    .propertyAdded, .propertyRemoved, .propertyTypeChanged, .propertyDescriptionChanged,
    .relationshipAdded, .relationshipRemoved, .relationshipEndpointsChanged,
    .relationshipJoinKeysChanged, .relationshipCardinalityTightened,
    .relationshipCardinalityRelaxed, .relationshipDescriptionChanged,
    .metricAdded, .metricRemoved, .metricExpressionChanged, .metricGrainChanged,
    .metricDescriptionChanged,
    .dimensionAdded, .dimensionRemoved, .dimensionDescriptionChanged]

def ofJson? : Json → Option ChangeKind := Json.word? (all.map fun k => (k.name, k))

end ChangeKind

/-- A change. -/
structure Change where
  kind : ChangeKind
  breaking : Bool
  /-- What was changed, by its full name. -/
  element : String
  old : Option Json
  new : Option Json
  details : Json
  deriving Repr, BEq

/-- How many changes there are of each class. -/
structure ChangeCounts where
  breaking : Nat
  nonBreaking : Nat
  total : Nat
  deriving DecidableEq, Repr

/-- All changes between two versions. -/
structure ChangeReport where
  breaking : List Change
  nonBreaking : List Change
  counts : ChangeCounts
  deriving Repr

namespace Change

/-- The name of the class of a change. -/
def className (breaking : Bool) : String := if breaking then "breaking" else "non_breaking"

def toJson (c : Change) : Json :=
  .obj [("category", .str c.kind.name), ("classification", .str (className c.breaking)),
    ("element", .str c.element), ("old_value", c.old.getD .null), ("new_value", c.new.getD .null),
    ("details", c.details)]

def ofJson? (v : Json) : Option Change := do
  let r ← Json.Record.of? ["category", "classification", "element", "old_value", "new_value",
    "details"] v
  return {
    kind := ← r.required "category" ChangeKind.ofJson?
    breaking := ← r.required "classification"
      (Json.word? [(className true, true), (className false, false)])
    element := ← r.required "element" Json.str?
    old := ← r.optional "old_value" (Json.orNull Json.any?)
    new := ← r.optional "new_value" (Json.orNull Json.any?)
    details := ← r.required "details" Json.any? }

end Change

namespace ChangeCounts

def toJson (c : ChangeCounts) : Json :=
  .obj [("breaking", Json.ofNat c.breaking), ("non_breaking", Json.ofNat c.nonBreaking),
    ("total", Json.ofNat c.total)]

def ofJson? (v : Json) : Option ChangeCounts := do
  let r ← Json.Record.of? ["breaking", "non_breaking", "total"] v
  return {
    breaking := ← r.required "breaking" Json.unsigned?
    nonBreaking := ← r.required "non_breaking" Json.unsigned?
    total := ← r.required "total" Json.unsigned? }

end ChangeCounts

namespace ChangeReport

/-- The report of the given changes. -/
def ofChanges (changes : List Change) : ChangeReport :=
  let breaking := changes.filter (·.breaking)
  let nonBreaking := changes.filter (!·.breaking)
  ⟨breaking, nonBreaking,
    ⟨breaking.length, nonBreaking.length, breaking.length + nonBreaking.length⟩⟩

/-- Whether there is a breaking change. -/
def hasBreaking (r : ChangeReport) : Bool := !r.breaking.isEmpty

/-- Whether there is no change. -/
def isEmpty (r : ChangeReport) : Bool := r.breaking.isEmpty && r.nonBreaking.isEmpty

/-- All changes, the breaking ones first. -/
def changes (r : ChangeReport) : List Change := r.breaking ++ r.nonBreaking

/-- The first change of a kind to an element. -/
def find? (r : ChangeReport) (kind : ChangeKind) (element : String) : Option Change :=
  r.changes.find? fun c => c.kind = kind && c.element == element

def toJson (r : ChangeReport) : Json :=
  .obj [("breaking_changes", .arr (r.breaking.map Change.toJson)),
    ("non_breaking_changes", .arr (r.nonBreaking.map Change.toJson)),
    ("summary", r.counts.toJson)]

def ofJson? (v : Json) : Option ChangeReport := do
  let r ← Json.Record.of? ["breaking_changes", "non_breaking_changes", "summary"] v
  return {
    breaking := ← r.required "breaking_changes" (Json.listOf Change.ofJson?)
    nonBreaking := ← r.required "non_breaking_changes" (Json.listOf Change.ofJson?)
    counts := ← r.required "summary" ChangeCounts.ofJson? }

end ChangeReport
end SemanticLayer
