import SemanticLayer.Compile.Basic
import SemanticLayer.Evaluation.JoinGraph
import SemanticLayer.Evaluation.Threshold
/-!
What each gate checks of an ontology. A check passes, fails or warns; thresholds are applied
afterwards.
-/
namespace SemanticLayer

/-- What came of a check. -/
inductive Outcome where
  | pass | fail | warning
  deriving DecidableEq, Repr

/-- What came of a check, with a message and details. -/
structure CheckResult where
  outcome : Outcome
  message : String
  details : Json
  deriving Repr

namespace Check

/-- Every ontology is well-formed. -/
def odlValid (o : Ontology) : CheckResult :=
  ⟨.pass, s!"IR produced for ontology '{o.name}' version {o.version}",
    .obj [("dimensions", Json.ofNat o.dimensions.length), ("metrics", Json.ofNat o.metrics.length),
      ("objects", Json.ofNat o.objects.length),
      ("relationships", Json.ofNat o.relationships.length)]⟩

/-- The ends of a relationship that are no objects. -/
def unresolvedEnds (o : Ontology) (r : Relationship) : List String :=
  [("from", r.source), ("to", r.target)].filterMap fun (side, object) =>
    if (o.object? object).isSome then none
    else some s!"relationship '{r.name}' {side} object '{object}'"

/-- The members of a grain that are no objects. -/
def unresolvedGrain (o : Ontology) (m : Metric) : List String :=
  m.grain.filterMap fun object =>
    if (o.object? object).isSome then none
    else some s!"metric '{m.name}' grain object '{object}'"

/-- The source of a dimension, if it is no property of an object. -/
def unresolvedSource (o : Ontology) (d : Dimension) : List String :=
  match d.source? with
  | none => [s!"dimension '{d.name}' source '{d.sourceProperty}'"]
  | some (object, property) =>
    match o.object? object with
    | none => [s!"dimension '{d.name}' object '{object}'"]
    | some found =>
      if found.hasProperty property then []
      else [s!"dimension '{d.name}' property '{object}.{property}'"]

/-- All references that lead nowhere. -/
def unresolved (o : Ontology) : List String :=
  o.relationships.flatMap (unresolvedEnds o) ++ o.metrics.flatMap (unresolvedGrain o)
    ++ o.dimensions.flatMap (unresolvedSource o)

/-- Every reference is to an object or a property that exists. -/
def noUnresolvedReferences (o : Ontology) : CheckResult :=
  let unresolved := unresolved o
  if unresolved.isEmpty then ⟨.pass, "all references resolve", .obj []⟩
  else ⟨.fail, s!"{unresolved.length} unresolved reference(s)",
    .obj [("unresolved", Json.ofTexts unresolved)]⟩

/-- Whether an object names its table itself. -/
def hasTable (object : Object) : Bool := object.table.any fun table => !Text.allBlank table

/-- Every object has a table. Without a mapping, nothing confirms that there is one under the name
of an object that names none. -/
def mappingComplete (o : Ontology) : CheckResult :=
  let tables := Json.arr <| o.objects.map fun object =>
    .obj [("object", .str object.name), ("table", .str (o.physicalTable object))]
  let defaulted := (o.objects.filter fun object => !hasTable object).map (·.name)
  if o.mapping.isSome then
    ⟨.pass, "every object resolves to a physical table", .obj [("tables", tables)]⟩
  else if defaulted.isEmpty then
    ⟨.pass, "every object declares an explicit table", .obj [("tables", tables)]⟩
  else
    ⟨.warning,
      s!"no mapping block; {defaulted.length} object(s) default to their lowercased name",
      .obj [("defaulted", Json.ofTexts defaulted), ("tables", tables)]⟩

/-- All objects can be joined. -/
def connectedJoinGraph (o : Ontology) : CheckResult :=
  if o.objects.isEmpty then
    ⟨.pass, "no objects declared", .obj [("components", Json.ofNat 0)]⟩
  else if o.relationships.isEmpty then
    ⟨.fail, "no relationships declared; every object is disconnected",
      .obj [("components", Json.ofNat o.objects.length),
        ("disconnected", Json.ofTexts o.objectNames)]⟩
  else
    let graph := JoinGraph.ofOntology o
    let components := graph.components
    if components.length ≤ 1 then
      ⟨.pass, s!"all {graph.nodes.length} object(s) form one join graph",
        .obj [("components", Json.ofNat 1)]⟩
    else
      let largest := (components.map List.length).foldl max 0
      let disconnected := components.filter fun c => c.length < largest
      let listed := Text.join " | " (disconnected.map (Text.join ", "))
      ⟨.fail, s!"join graph has {components.length} components; disconnected: {listed}",
        .obj [("components", Json.ofNat components.length),
          ("disconnected", .arr (disconnected.map Json.ofTexts))]⟩

/-- The join keys of a relationship that are no properties of its ends, if both ends exist. -/
def joinKeyMismatches (o : Ontology) (r : Relationship) : List Json :=
  match o.object? r.source, o.object? r.target with
  | some source, some target =>
    r.joinKeys.flatMap fun (left, right) =>
      [(source, left), (target, right)].filterMap fun (object, property) =>
        if object.hasProperty property then none
        else some (.obj [("object", .str object.name), ("property", .str property),
          ("relationship", .str r.name)])
  | _, _ => []

/-- An ambiguous pair as details give it. -/
def pairJson (p : AmbiguousPair) : Json :=
  .obj [("from", .str p.first), ("path_count", Json.ofNat p.pathCount), ("to", .str p.second)]

/-- No two objects can be joined in two ways. Paths are searched once all join keys exist. -/
def noAmbiguousJoinPaths (o : Ontology) : CheckResult :=
  let mismatches := o.relationships.flatMap (joinKeyMismatches o)
  if !mismatches.isEmpty then
    ⟨.fail, s!"{mismatches.length} join key(s) missing on their endpoint",
      .obj [("join_key_mismatches", .arr mismatches)]⟩
  else
    let ambiguous := (JoinGraph.ofOntology o).ambiguousPairs JoinGraph.maxDepth
    let depth := ("max_depth", Json.ofNat JoinGraph.maxDepth)
    if ambiguous.isEmpty then
      ⟨.pass, "every object pair has at most one join path", .obj [depth]⟩
    else
      let listed := Text.join ", " <| ambiguous.map fun p =>
        s!"{p.first}-{p.second} ({p.pathCount} paths)"
      ⟨.fail, s!"ambiguous join paths: {listed}",
        .obj [("ambiguous", .arr (ambiguous.map pairJson)), depth]⟩

/-- What is wrong with the grain of a metric. -/
def grainViolations (o : Ontology) (m : Metric) : List Json :=
  let violation (reason : String) : Json :=
    .obj [("metric", .str m.name), ("reason", .str reason)]
  if m.grain.isEmpty then [violation "empty grain"]
  else m.grain.filterMap fun object =>
    if (o.object? object).isSome then none
    else some (violation s!"unknown grain object '{object}'")

/-- Every metric has a grain of objects that exist. -/
def metricGrainConsistency (o : Ontology) : CheckResult :=
  let violations := o.metrics.flatMap (grainViolations o)
  if violations.isEmpty then
    ⟨.pass, s!"{o.metrics.length} metric grain(s) consistent", .obj []⟩
  else
    ⟨.fail, s!"{violations.length} metric grain violation(s)",
      .obj [("violations", .arr violations)]⟩

/-- What asks the platform to verify only. -/
def verifyFlag : List Char := "verify_only => TRUE".toList

/-- The ontology compiles to a script that only verifies. -/
def yamlVerifyPasses (o : Ontology) (options : CompileOptions) : CheckResult :=
  match Compile.model o options with
  | .ok compiled =>
    let target := compiled.view.qualifiedName
    if Text.containsPart verifyFlag compiled.verifySql.toList then
      ⟨.pass, s!"verify script rendered for {target}",
        .obj [("target", .str target), ("yaml_bytes", Json.ofNat (Text.byteLength compiled.yaml))]⟩
    else
      ⟨.fail, "compiled output has no dry-run verify call", .obj [("target", .str target)]⟩
  | .error e =>
    ⟨.fail, s!"compilation failed: {e.message}", .obj [("error", .str e.message)]⟩

/-- The check of a gate. -/
def run (o : Ontology) (options : CompileOptions) : Gate → CheckResult
  | .odlValid => odlValid o
  | .noUnresolvedReferences => noUnresolvedReferences o
  | .mappingComplete => mappingComplete o
  | .connectedJoinGraph => connectedJoinGraph o
  | .noAmbiguousJoinPaths => noAmbiguousJoinPaths o
  | .metricGrainConsistency => metricGrainConsistency o
  | .yamlVerifyPasses => yamlVerifyPasses o options

end Check
end SemanticLayer
