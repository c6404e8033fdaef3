import SemanticLayer.Change.Basic
import SemanticLayer.Ontology.Codec
/-!
The changes between two versions of an ontology. Things are matched by their names, of which the
first bearer counts, and compared in the order of the names. The order in which identifiers, join
keys and grains are listed is no change.
-/
namespace SemanticLayer.Diff

/-- Whether two lists have the same members. -/
def sameMembers [BEq α] (xs ys : List α) : Bool :=
  xs.all ys.contains && ys.all xs.contains

/-- A change without details. -/
def change (kind : ChangeKind) (breaking : Bool) (element : String) (old new : Option Json) :
    Change :=
  ⟨kind, breaking, element, old, new, .obj []⟩

/-- A change of a text, if it is one. -/
def textChange (kind : ChangeKind) (breaking : Bool) (element old new : String) : List Change :=
  if old = new then [] else [change kind breaking element (some (.str old)) (some (.str new))]

/-- Compares the things of two lists that have the same name. -/
def byName (name : α → String) (old new : List α) (added removed : α → List Change)
    (both : α → α → List Change) : List Change :=
  (textSet (old.map name ++ new.map name)).flatMap fun n =>
    match old.find? (name · = n), new.find? (name · = n) with
    | none, some y => added y
    | some x, none => removed x
    | some x, some y => both x y
    | none, none => []

/-- The identifiers of an object. -/
def identifiers (old new : Object) : List Change :=
  let oldIds := textSet old.identifiers
  let newIds := textSet new.identifiers
  let removed := oldIds.filter fun id => !newIds.contains id
  let added := newIds.filter fun id => !oldIds.contains id
  if removed.isEmpty && added.isEmpty then []
  else if !oldIds.isEmpty && !newIds.isEmpty && !oldIds.any newIds.contains then
    [{ change .identifierReplaced true old.name (some (Json.ofTexts old.identifiers))
        (some (Json.ofTexts new.identifiers)) with
      details := .obj [("added", Json.ofTexts added), ("removed", Json.ofTexts removed)] }]
  else
    (removed.map fun id =>
      change .identifierRemoved true s!"{old.name}.{id}" (some (.str id)) none)
    ++ added.map fun id =>
      change .identifierAdded false s!"{new.name}.{id}" none (some (.str id))

/-- The properties of an object. -/
def properties (old new : Object) : List Change :=
  let element (p : Property) : String := s!"{new.name}.{p.name}"
  byName Property.name old.properties new.properties
    (fun p => [change .propertyAdded false (element p) none (some p.type.toJson)])
    (fun p => [change .propertyRemoved true (element p) (some p.type.toJson) none])
    (fun p q =>
      (if p.type = q.type then []
        else [change .propertyTypeChanged true (element q) (some p.type.toJson)
          (some q.type.toJson)])
      ++ textChange .propertyDescriptionChanged false (element q) p.description q.description)

/-- The objects. -/
def objects (old new : Ontology) : List Change :=
  byName Object.name old.objects new.objects
    (fun o => [change .objectAdded false o.name none (some (.str o.name))])
    (fun o => [change .objectRemoved true o.name (some (.str o.name)) none])
    (fun o p =>
      textChange .objectDescriptionChanged false p.name o.description p.description
        ++ identifiers o p ++ properties o p)

/-- The two ends of a relationship. -/
def endsText (r : Relationship) : Json := .str s!"{r.source} -> {r.target}"

/-- The join keys of a relationship. -/
def joinKeysJson (r : Relationship) : Json :=
  .arr (r.joinKeys.map fun (left, right) => Json.ofTexts [left, right])

/-- The cardinality of a relationship: a stricter one is breaking, a laxer one is not. -/
def cardinality (old new : Relationship) : List Change :=
  let was := some old.cardinality.toJson
  let now := some new.cardinality.toJson
  if old.cardinality.rank < new.cardinality.rank then
    [change .relationshipCardinalityTightened true new.name was now]
  else if new.cardinality.rank < old.cardinality.rank then
    [change .relationshipCardinalityRelaxed false new.name was now]
  else []

/-- The relationships. -/
def relationships (old new : Ontology) : List Change :=
  byName Relationship.name old.relationships new.relationships
    (fun r => [change .relationshipAdded false r.name none (some (endsText r))])
    (fun r => [change .relationshipRemoved true r.name (some (endsText r)) none])
    (fun r s =>
      (if r.source = s.source ∧ r.target = s.target then []
        else [change .relationshipEndpointsChanged true s.name
          (some (Json.ofTexts [r.source, r.target])) (some (Json.ofTexts [s.source, s.target]))])
      ++ (if sameMembers r.joinKeys s.joinKeys then []
        else [change .relationshipJoinKeysChanged true s.name (some (joinKeysJson r))
          (some (joinKeysJson s))])
      ++ cardinality r s
      ++ textChange .relationshipDescriptionChanged false s.name r.description s.description)

/-- The metrics. -/
def metrics (old new : Ontology) : List Change :=
  byName Metric.name old.metrics new.metrics
    (fun m => [change .metricAdded false m.name none (some (.str m.expression))])
    (fun m => [change .metricRemoved true m.name (some (.str m.expression)) none])
    (fun m n =>
      textChange .metricExpressionChanged true n.name m.expression n.expression
      ++ (if sameMembers m.grain n.grain then []
        else [change .metricGrainChanged true n.name (some (Json.ofTexts m.grain))
          (some (Json.ofTexts n.grain))])
      ++ textChange .metricDescriptionChanged false n.name m.description n.description)

/-- The dimensions. One that exposes another property counts as removed. -/
def dimensions (old new : Ontology) : List Change :=
  byName Dimension.name old.dimensions new.dimensions
    (fun d => [change .dimensionAdded false d.name none (some (.str d.sourceProperty))])
    (fun d => [change .dimensionRemoved true d.name (some (.str d.sourceProperty)) none])
    (fun d e =>
      (if d.sourceProperty = e.sourceProperty then []
        else [{ change .dimensionRemoved true e.name (some (.str d.sourceProperty))
            (some (.str e.sourceProperty)) with
          details := .obj [("source_changed", .bool true)] }])
      ++ textChange .dimensionDescriptionChanged false e.name d.description e.description)

end Diff

/-- The changes between two versions of an ontology. -/
def diff (old new : Ontology) : ChangeReport :=
  ChangeReport.ofChanges
    (Diff.objects old new ++ Diff.relationships old new ++ Diff.metrics old new
      ++ Diff.dimensions old new)

end SemanticLayer
