import SemanticLayer.Bundle.Basic
import SemanticLayer.Change.Basic
import SemanticLayer.Document.Finding
import SemanticLayer.Drift.Basic
import SemanticLayer.Evaluation.Basic
import SemanticLayer.Report.BoxTable
import SemanticLayer.Report.Csv
/-!
Results as texts: as tables to be read, as records separated by commas, and as JSON.
-/
namespace SemanticLayer

/-- The form of a text. -/
inductive Format where
  | table | json | csv
  deriving DecidableEq, Repr

namespace Report

/-- A value in a cell: a text as it is, any other value as JSON, and a dash for none. -/
def cell : Option Json → String
  | none => "-"
  | some (.str s) => s
  | some v => v.compact

/-- A value in a record: JSON, or nothing. -/
def recordValue : Option Json → String
  | none => ""
  | some v => v.compact

/-- The findings of a document as a table. -/
def validationTable (r : Document.Report) : String :=
  if r.isValid then "Document is valid (0 errors)"
  else
    let rows := r.findings.zipIdx.map fun (f, index) =>
      [toString (index + 1), f.path, f.message, cell f.value]
    BoxTable.render ["#", "Path", "Message", "Value"] rows ++ s!"\n{r.findings.length} error(s)"

/-- The findings of a document as records. -/
def validationCsv (r : Document.Report) : String :=
  Csv.render <| ["path", "message", "value"] ::
    r.findings.map fun f => [f.path, f.message, recordValue f.value]

/-- Changes as a table. -/
def changeTable (r : ChangeReport) : String :=
  if r.isEmpty then "No changes"
  else
    let rows := r.changes.map fun c =>
      [if c.breaking then "BREAKING" else "non-breaking", c.kind.name, c.element, cell c.old,
        cell c.new]
    BoxTable.render ["Class", "Category", "Element", "Old", "New"] rows ++
      s!"\nBreaking: {r.counts.breaking}  Non-breaking: {r.counts.nonBreaking}  " ++
      s!"Total: {r.counts.total}"

/-- Changes as records. -/
def changeCsv (r : ChangeReport) : String :=
  Csv.render <| ["classification", "category", "element", "old_value", "new_value"] ::
    r.changes.map fun c =>
      [Change.className c.breaking, c.kind.name, c.element, recordValue c.old, recordValue c.new]

/-- An evaluation as a table. -/
def evaluationTable (e : Evaluation) : String :=
  let rows := e.gates.map fun g =>
    [g.gate.name, g.category.name, g.threshold.name, Text.asciiUpper g.status.name, g.message]
  let counts := e.summary.overall
  let verdict := if e.passed then "PASS" else "FAIL"
  BoxTable.render ["Gate", "Category", "Threshold", "Status", "Message"] rows ++
    s!"\nProfile: {e.profile.name}  Version: {e.version}  Verdict: {verdict}\n" ++
    s!"Passed: {counts.passed}  Failed: {counts.failed}  Warnings: {counts.warnings}  " ++
    s!"Skipped: {counts.skipped}"

/-- An evaluation as records. -/
def evaluationCsv (e : Evaluation) : String :=
  Csv.render <| ["gate", "category", "threshold", "status", "message"] ::
    e.gates.map fun g =>
      [g.gate.name, g.category.name, g.threshold.name, g.status.name, g.message]

/-- Differences as a table. -/
def driftTable (r : DriftReport) : String :=
  if r.hasDrift then
    let rows := r.events.map fun e => [e.area.name, e.kind.name, e.element, e.message]
    BoxTable.render ["Drift", "Event", "Element", "Message"] rows ++
      s!"\n{r.events.length} event(s)"
  else s!"No drift detected for {r.ontology}"

/-- Differences as records. -/
def driftCsv (r : DriftReport) : String :=
  Csv.render <| ["drift_type", "event_type", "element", "message"] ::
    r.events.map fun e => [e.area.name, e.kind.name, e.element, e.message]

/-- A bundle as a table. -/
def bundleTable (b : Bundle) : String :=
  let rows := b.files.map fun f => [f.path, toString (Text.byteLength f.content)]
  BoxTable.render ["File", "Bytes"] rows ++
    s!"\nBundle: {b.name}\nTarget: {b.metadata.target}\nChecksum: {b.metadata.checksum}"

end Report

namespace Format

/-- The form of a name; any other name is that of JSON. -/
def ofName (name : String) : Format :=
  if name = "table" then .table else if name = "csv" then .csv else .json

/-- The findings of a document. -/
def validation (f : Format) (r : Document.Report) : String :=
  match f with
  | .table => Report.validationTable r
  | .csv => Report.validationCsv r
  | .json => r.toJson.pretty

/-- Changes. -/
def changes (f : Format) (r : ChangeReport) : String :=
  match f with
  | .table => Report.changeTable r
  | .csv => Report.changeCsv r
  | .json => r.toJson.pretty

/-- An evaluation. -/
def evaluation (f : Format) (e : Evaluation) : String :=
  match f with
  | .table => Report.evaluationTable e
  | .csv => Report.evaluationCsv e
  | .json => e.toJson.pretty

/-- Differences. -/
def drift (f : Format) (r : DriftReport) : String :=
  match f with
  | .table => Report.driftTable r
  | .csv => Report.driftCsv r
  | .json => r.toJson.pretty

/-- A bundle; there are no records of one. -/
def bundle (f : Format) (b : Bundle) : String :=
  match f with
  | .table => Report.bundleTable b
  | .csv => b.metadata.toJson.pretty
  | .json => b.metadata.toJson.pretty

end Format
end SemanticLayer
