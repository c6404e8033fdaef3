import SemanticLayer.Json.Record
import SemanticLayer.Ontology.Vocabulary
/-!
The gates of an evaluation and how much each one matters. A profile sets the threshold of every
gate; overrides set those of single gates, and the last override of a gate counts.
-/
namespace SemanticLayer

/-- What a gate is about. -/
inductive GateCategory where
  | structural | semantic | deployability
  deriving DecidableEq, Repr

namespace GateCategory

/-- All categories, in the order in which summaries list them. -/
def all : List GateCategory := [.structural, .semantic, .deployability]

def name : GateCategory → String
  | .structural => "structural"
  | .semantic => "semantic"
  | .deployability => "deployability"

def ofJson? : Json → Option GateCategory := Json.word? (all.map fun c => (c.name, c))

end GateCategory

/-- A check of an ontology. -/
inductive Gate where
  | odlValid | noUnresolvedReferences | mappingComplete | connectedJoinGraph
  | noAmbiguousJoinPaths | metricGrainConsistency | yamlVerifyPasses
  deriving DecidableEq, Repr

namespace Gate

/-- All gates, in the order in which they are run. -/
def all : List Gate :=
  [.odlValid, .noUnresolvedReferences, .mappingComplete, .connectedJoinGraph,
    .noAmbiguousJoinPaths, .metricGrainConsistency, .yamlVerifyPasses]

def name : Gate → String
  | .odlValid => "odl_valid"
  | .noUnresolvedReferences => "no_unresolved_references"
  | .mappingComplete => "mapping_complete"
  | .connectedJoinGraph => "connected_join_graph"
  | .noAmbiguousJoinPaths => "no_ambiguous_join_paths"
  | .metricGrainConsistency => "metric_grain_consistency"
  | .yamlVerifyPasses => "yaml_verify_passes"

def category : Gate → GateCategory
  | .odlValid => .structural
  | .noUnresolvedReferences => .structural
  | .mappingComplete => .structural
  | .connectedJoinGraph => .semantic
  | .noAmbiguousJoinPaths => .semantic
  | .metricGrainConsistency => .semantic
  | .yamlVerifyPasses => .deployability

/-- The gate of a name, which may have blanks around it. -/
def parse? (raw : String) : Option Gate := all.find? (·.name == Text.trim raw)

/-- The wording for a name that is no gate's. -/
def unknown (raw : String) : String := s!"unknown gate: {raw}"

def ofJson? : Json → Option Gate := Json.word? (all.map fun g => (g.name, g))

end Gate

/-- What came of a gate. -/
inductive GateStatus where
  | pass | fail | warning | skip
  deriving DecidableEq, Repr

namespace GateStatus

def name : GateStatus → String
  | .pass => "pass"
  | .fail => "fail"
  | .warning => "warning"
  | .skip => "skip"

def ofJson? : Json → Option GateStatus :=
  Json.word? ([pass, fail, warning, skip].map fun s => (s.name, s))

end GateStatus

/-- How much a gate matters. -/
inductive Threshold where
  | required | warning | skip
  deriving DecidableEq, Repr

namespace Threshold

def all : List Threshold := [.required, .warning, .skip]

def name : Threshold → String
  | .required => "required"
  | .warning => "warning"
  | .skip => "skip"

/-- The threshold that a word names, in any letter case and with blanks around it. -/
def parse? (raw : String) : Option Threshold := all.find? (·.name == foldWord raw)

/-- The wording for a word that is no threshold. -/
def unknown (raw : String) : String := s!"unknown threshold: {raw}"

def ofJson? : Json → Option Threshold := Json.word? (all.map fun t => (t.name, t))

end Threshold

/-- How strict an evaluation is. -/
inductive Profile where
  | strict | relaxed
  deriving DecidableEq, Repr

namespace Profile

def all : List Profile := [.strict, .relaxed]

def name : Profile → String
  | .strict => "strict"
  | .relaxed => "relaxed"

/-- The profile that a word names, in any letter case and with blanks around it. -/
def parse? (raw : String) : Option Profile := all.find? (·.name == foldWord raw)

/-- The wording for a word that is no profile. -/
def unknown (raw : String) : String := s!"unknown profile: {raw}"

def ofJson? : Json → Option Profile := Json.word? (all.map fun p => (p.name, p))

/-- The threshold of a gate without overrides: a relaxed evaluation only warns of what concerns the
mapping and the joins. -/
def threshold : Profile → Gate → Threshold
  | .relaxed, .mappingComplete => .warning
  | .relaxed, .connectedJoinGraph => .warning
  | .relaxed, .noAmbiguousJoinPaths => .warning
  | _, _ => .required

end Profile

/-- A profile with overrides, the latest first. -/
structure ThresholdProfile where
  profile : Profile
  overrides : List (Gate × Threshold)
  deriving DecidableEq, Repr

namespace ThresholdProfile

/-- A profile without overrides. -/
def of (profile : Profile) : ThresholdProfile := ⟨profile, []⟩

/-- Sets the threshold of a gate. -/
def override (p : ThresholdProfile) (gate : Gate) (threshold : Threshold) : ThresholdProfile :=
  { p with overrides := (gate, threshold) :: p.overrides }

/-- The threshold of a gate. -/
def threshold (p : ThresholdProfile) (gate : Gate) : Threshold :=
  match p.overrides.find? (·.1 = gate) with
  | some (_, threshold) => threshold
  | none => p.profile.threshold gate

end ThresholdProfile
end SemanticLayer
