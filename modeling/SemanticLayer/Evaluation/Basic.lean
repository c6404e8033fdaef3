import SemanticLayer.Evaluation.Check
/-!
The evaluation of an ontology: the checks of all gates under a profile, which ones block, and how
many there are of each status.
-/
namespace SemanticLayer

/-- What came of a gate. -/
structure GateResult where
  gate : Gate
  category : GateCategory
  threshold : Threshold
  status : GateStatus
  message : String
  details : Json
  deriving Repr

/-- How many gates there are of each status. -/
structure GateCounts where
  total : Nat
  passed : Nat
  failed : Nat
  warnings : Nat
  skipped : Nat
  deriving DecidableEq, Repr

/-- The counts of all gates and of those of each category. -/
structure EvaluationSummary where
  overall : GateCounts
  byCategory : List (GateCategory × GateCounts)
  deriving Repr

/-- What came of an evaluation. -/
structure Evaluation where
  profile : Profile
  version : Int
  passed : Bool
  gates : List GateResult
  summary : EvaluationSummary
  deriving Repr

namespace GateResult

/-- Whether a gate keeps an evaluation from passing: it is required and failed, or it is required by
a strict profile and gave a warning. -/
def isBlocking (profile : Profile) (r : GateResult) : Bool :=
  r.threshold = .required &&
    match r.status with
    | .fail => true
    | .warning => profile = .strict
    | .pass => false
    | .skip => false

/-- The status of a check under a threshold. -/
def statusOf : Outcome → Threshold → GateStatus
  | .pass, _ => .pass
  | .warning, _ => .warning
  | .fail, .warning => .warning
  | .fail, _ => .fail

/-- Runs a gate, unless its threshold says that it is skipped. -/
def run (o : Ontology) (profile : ThresholdProfile) (options : CompileOptions) (gate : Gate) :
    GateResult :=
  let threshold := profile.threshold gate
  if threshold = .skip then
    ⟨gate, gate.category, threshold, .skip, "skipped by threshold", .obj []⟩
  else
    let check := Check.run o options gate
    ⟨gate, gate.category, threshold, statusOf check.outcome threshold, check.message,
      check.details⟩

def toJson (r : GateResult) : Json :=
  .obj [("gate", .str r.gate.name), ("category", .str r.category.name),
    ("threshold", .str r.threshold.name), ("status", .str r.status.name),
    ("message", .str r.message), ("details", r.details)]

def ofJson? (v : Json) : Option GateResult := do
  let r ← Json.Record.of? ["gate", "category", "threshold", "status", "message", "details"] v
  return {
    gate := ← r.required "gate" Gate.ofJson?
    category := ← r.required "category" GateCategory.ofJson?
    threshold := ← r.required "threshold" Threshold.ofJson?
    status := ← r.required "status" GateStatus.ofJson?
    message := ← r.required "message" Json.str?
    details := ← r.required "details" Json.any? }

end GateResult

namespace GateCounts

/-- The counts of some statuses. -/
def ofStatuses (statuses : List GateStatus) : GateCounts where
  total := statuses.length
  passed := statuses.count .pass
  failed := statuses.count .fail
  warnings := statuses.count .warning
  skipped := statuses.count .skip

def toJson (c : GateCounts) : Json :=
  .obj [("total", Json.ofNat c.total), ("passed", Json.ofNat c.passed),
    ("failed", Json.ofNat c.failed), ("warnings", Json.ofNat c.warnings),
    ("skipped", Json.ofNat c.skipped)]

def ofJson? (v : Json) : Option GateCounts := do
  let r ← Json.Record.of? ["total", "passed", "failed", "warnings", "skipped"] v
  return {
    total := ← r.required "total" Json.unsigned?
    passed := ← r.required "passed" Json.unsigned?
    failed := ← r.required "failed" Json.unsigned?
    warnings := ← r.required "warnings" Json.unsigned?
    skipped := ← r.required "skipped" Json.unsigned? }

end GateCounts

namespace EvaluationSummary

/-- The summary of some gates; a category without gates is left out. -/
def ofGates (gates : List GateResult) : EvaluationSummary where
  overall := GateCounts.ofStatuses (gates.map (·.status))
  byCategory := GateCategory.all.filterMap fun category =>
    let statuses := (gates.filter (·.category = category)).map (·.status)
    if statuses.isEmpty then none else some (category, GateCounts.ofStatuses statuses)

/-- The counts of the categories, in the order of the categories. -/
def categoriesOfJson? (v : Json) : Option (List (GateCategory × GateCounts)) := do
  let members ← Json.mapOf GateCounts.ofJson? v
  let counts ← members.mapM fun (k, c) => (GateCategory.ofJson? (.str k)).map ((·, c))
  return GateCategory.all.filterMap fun category => counts.find? (·.1 = category)

def toJson (s : EvaluationSummary) : Json :=
  .obj [("overall", s.overall.toJson),
    ("by_category", .obj (s.byCategory.map fun (category, counts) =>
      (category.name, counts.toJson)))]

def ofJson? (v : Json) : Option EvaluationSummary := do
  let r ← Json.Record.of? ["overall", "by_category"] v
  return {
    overall := ← r.required "overall" GateCounts.ofJson?
    byCategory := ← r.required "by_category" categoriesOfJson? }

end EvaluationSummary

namespace Evaluation

/-- The gate of a name. -/
def gate? (e : Evaluation) (gate : Gate) : Option GateResult := e.gates.find? (·.gate = gate)

/-- The gates that keep an evaluation from passing. -/
def blocking (e : Evaluation) : List GateResult :=
  e.gates.filter (GateResult.isBlocking e.profile)

def toJson (e : Evaluation) : Json :=
  .obj [("profile", .str e.profile.name), ("version_id", .int e.version),
    ("passed", .bool e.passed), ("gates", .arr (e.gates.map GateResult.toJson)),
    ("summary", e.summary.toJson)]

def ofJson? (v : Json) : Option Evaluation := do
  let r ← Json.Record.of? ["profile", "version_id", "passed", "gates", "summary"] v
  return {
    profile := ← r.required "profile" Profile.ofJson?
    version := ← r.required "version_id" Json.signed?
    passed := ← r.required "passed" Json.bool?
    gates := ← r.required "gates" (Json.listOf GateResult.ofJson?)
    summary := ← r.required "summary" EvaluationSummary.ofJson? }

end Evaluation

/-- Evaluates an ontology; it is compiled with the given options. -/
def evaluateWith (o : Ontology) (version : Int) (profile : ThresholdProfile)
    (options : CompileOptions) : Evaluation :=
  let gates := Gate.all.map (GateResult.run o profile options)
  ⟨profile.profile, version, !gates.any (GateResult.isBlocking profile.profile), gates,
    EvaluationSummary.ofGates gates⟩

/-- Evaluates an ontology; it is compiled without options. -/
def evaluate (o : Ontology) (version : Int) (profile : ThresholdProfile) : Evaluation :=
  evaluateWith o version profile ⟨none, none, none, some version, ⟨0⟩⟩

end SemanticLayer
