import SemanticLayer.Bundle.Write
import SemanticLayer.Change.Diff
import SemanticLayer.Cli.Command
import SemanticLayer.Config.Basic
import SemanticLayer.Document.Source
import SemanticLayer.Provider.Snapshot
/-!
The commands as functions on a tree of files: what a command prints, which files it leaves, and
whether it fails. What was printed and written before a failure stays.
-/
namespace SemanticLayer.Cli

/-- Where and when a command runs. -/
structure Setting where
  files : FileTree
  /-- The home directory of the user. -/
  home : String
  now : Instant

/-- What came of a command. -/
structure Result where
  output : String
  files : FileTree
  failure : Option Failure

namespace Result

/-- The exit status. -/
def status (r : Result) : Nat := if r.failure.isSome then 1 else 0

end Result

/-- A cause with a label before its first line and as many spaces before its other lines. -/
def causeLines (label cause : String) : String :=
  let indented := '\n' :: List.replicate label.length ' '
  "\n" ++ label ++ String.ofList (Text.replaceChar '\n' indented cause.toList)

/-- The label of one of several causes: its number at the end of five columns. -/
def causeLabel (index : Nat) : String :=
  let number := toString index
  String.ofList (List.replicate (5 - number.length) ' ') ++ number ++ ": "

/-- The causes of a failure, with numbers if there are several. -/
def causeText : List String → String
  | [] => ""
  | [cause] => "\n\nCaused by:" ++ causeLines "    " cause
  | causes => "\n\nCaused by:" ++ String.join (causes.zipIdx.map fun (cause, index) =>
      causeLines (causeLabel index) cause)

/-- How a failure is printed. -/
def failureText (f : Failure) : String := s!"Error: {f.message}{causeText f.causes}\n"

/-- A failure without causes. -/
def plainFailure (message : String) : Failure := ⟨message, []⟩

/-- The failure of loading a document. -/
def loadFailure (e : Document.LoadError) : Failure :=
  match e with
  | .unreadable _ error => ⟨e.message, [error.message]⟩
  | _ => plainFailure e.message

/-- The failure of a document that gives no ontology. -/
def documentFailure (e : Document.DocumentError) : Failure :=
  match e with
  | .load error => loadFailure error
  | .invalid _ => plainFailure e.message

/-- The failure of a provider. -/
def providerFailure (e : ProviderError) : Failure :=
  match e with
  | .unreadable _ error => ⟨e.message, [error.message]⟩
  | _ => plainFailure e.message

/-- The failure of a promotion. -/
def promotionFailure (e : PromotionError) : Failure :=
  match e with
  | .compile _ error => ⟨e.message, [error.message]⟩
  | _ => plainFailure e.message

/-- A text that is printed with a line break. -/
def line (text : String) : String := text ++ "\n"

/-- A result as it is printed: records end their own lines. -/
def printed (format : Format) (text : String) : String :=
  match format with
  | .csv => text
  | _ => line text

/-- Processes the document of a file. -/
def process (s : Setting) (path : String) : Except Failure Document.Processed :=
  (Document.process s.files (.file path)).mapError loadFailure

/-- The ontology of a valid document. -/
def loadValid (s : Setting) (path : String) : Except Failure Ontology :=
  (Document.loadValid s.files (.file path)).mapError documentFailure

/-- What a command prints, and its failure. -/
abbrev Printed := String × Option Failure

/-- Validates a document. -/
def validate (s : Setting) (format : Format) (path : String) : Except Failure Printed := do
  let processed ← process s path
  let text := printed format (format.validation processed.report)
  if processed.report.isValid then return (text, none)
  else return (text, some (plainFailure
    s!"{path} failed validation with {processed.report.findings.length} error(s)"))

/-- Shows the ontology of a document, valid or not. -/
def normalize (s : Setting) (format : Format) (path : String) : Except Failure Printed := do
  let ontology := (← process s path).ontology
  let text := line ontology.toJson.pretty
  match format with
  | .table => return (text ++ line s!"Fingerprint: {ontology.fingerprint}", none)
  | _ => return (text, none)

/-- Shows the changes between two documents, valid or not. -/
def diff (s : Setting) (format : Format) (old new : String) : Except Failure Printed := do
  let old := (← process s old).ontology
  let new := (← process s new).ontology
  return (printed format (format.changes (SemanticLayer.diff old new)), none)

/-- Evaluates a document, valid or not. -/
def evaluate (s : Setting) (format : Format) (config : Config) (path : String)
    (profile : Option Profile) (version : Int) : Except Failure Printed := do
  let config := { config with profile := profile.getD config.profile }
  let thresholds ← config.thresholds
  let ontology := (← process s path).ontology
  let result := evaluateWith ontology version thresholds (config.compileOptions s.now)
  let text := printed format (format.evaluation result)
  if result.passed then return (text, none)
  else return (text, some (plainFailure
    s!"evaluation failed: {result.blocking.length} blocking gate(s)"))

/-- Where a bundle is written, and how. -/
structure Destination where
  base : String
  zip : Bool

/-- The destination that the configuration and the options name. -/
def destination (s : Setting) (config : Config) (out : Option String) (zip : Bool) : Destination :=
  ⟨(out.map (Config.expandTilde s.home)).getD (config.bundlePath s.home), zip || config.zip⟩

/-- The failure of writing a bundle. -/
def writeFailure (message : String) (e : WriteError) : Failure :=
  ⟨message, [e.message, e.error.message]⟩

/-- Writes a bundle. Gives the files afterwards and the paths that were written. -/
def writeBundle (s : Setting) (d : Destination) (bundle : Bundle) :
    FileTree × Except Failure (List String) :=
  if d.zip then
    let path := Path.join d.base (bundle.name ++ ".zip")
    match bundle.writeArchive path s.files with
    | .ok files => (files, .ok [path])
    | .error e => (s.files, .error (writeFailure s!"failed writing bundle archive: {path}" e))
  else
    let dir := Path.join d.base bundle.name
    let (files, written) := bundle.writeToDir dir s.files
    (files, written.mapError (writeFailure s!"failed writing bundle directory: {dir}"))

/-- Prints a bundle and the paths that were written. -/
def bundleText (format : Format) (bundle : Bundle) (written : List String) : String :=
  match format with
  | .table => line (format.bundle bundle) ++ String.join (written.map fun path => s!"  {path}\n")
  | _ => line (format.bundle bundle)

/-- Writes and prints a bundle. -/
def deliver (s : Setting) (format : Format) (d : Destination) (bundle : Bundle) : Result :=
  match writeBundle s d bundle with
  | (files, .error failure) => ⟨"", files, some failure⟩
  | (files, .ok written) => ⟨bundleText format bundle written, files, none⟩

/-- Compiles a document. -/
def compile (s : Setting) (config : Config) (path : String) (view : Option String)
    (version : Option Int) : Except Failure Bundle := do
  let ontology ← loadValid s path
  let options := config.compileOptions s.now
  let options := { options with viewName := view <|> options.viewName, version := version }
  (Compile.bundle ontology options).mapError fun e => plainFailure e.message

/-- Promotes a document through the environments of the configuration. -/
def promote (s : Setting) (config : Config) (configPath path : String) (version : Option Int) :
    Except Failure Bundle := do
  if config.environments.isEmpty then
    .error (plainFailure (s!"no [environments] configured in {configPath}; " ++
      "run `odlc config --init` for a template"))
  else
    let ontology ← loadValid s path
    let provider := (config.snapshotPath? s.home).map (Snapshot.provider s.files)
    (Promotion.bundle ontology config.environments provider ⟨version, s.now⟩).mapError
      promotionFailure

/-- Detects differences between a document and exported files. -/
def drift (s : Setting) (format : Format) (config : Config) (path : String)
    (snapshotDir : Option String) (semanticView : Bool) : Except Failure Printed := do
  let config := { config with snapshotDir := snapshotDir.getD config.snapshotDir }
  match config.snapshotPath? s.home with
  | none => .error (plainFailure "drift needs --snapshot-dir or [provider] snapshot_dir")
  | some root =>
    let ontology ← loadValid s path
    let view ← if semanticView then
        match Compile.resolveView ontology (config.compileOptions s.now) with
        | .ok view => .ok (some view)
        | .error e =>
          .error ⟨"cannot locate the semantic view to compare against", [e.message]⟩
      else .ok none
    let options := { config.driftOptions with view := view }
    match detectDrift ontology (Snapshot.provider s.files root) options with
    | .ok report => return (printed format (format.drift report), none)
    | .error e => .error (providerFailure e)

/-- Writes a new configuration, shows the present one, or both. -/
def configure (s : Setting) (config : Config) (path : String) (init display : Bool) : Result :=
  let shown := if display || !init then line config.toJson.pretty else ""
  if init then
    match Config.writeTemplate s.files path with
    | .ok files => ⟨line s!"Wrote config template to {path}" ++ shown, files, none⟩
    | .error failure => ⟨"", s.files, some failure⟩
  else ⟨shown, s.files, none⟩

/-- A command that writes no files. -/
def reading (s : Setting) : Except Failure Printed → Result
  | .ok (text, failure) => ⟨text, s.files, failure⟩
  | .error failure => ⟨"", s.files, some failure⟩

/-- A command that writes a bundle. -/
def delivering (s : Setting) (format : Format) (d : Destination) : Except Failure Bundle → Result
  | .ok bundle => deliver s format d bundle
  | .error failure => ⟨"", s.files, some failure⟩

/-- Runs a command under a configuration that was read from a path. -/
def runCommand (s : Setting) (format : Format) (config : Config) (configPath : String) :
    Command → Result
  | .validate document => reading s (validate s format document)
  | .normalize document => reading s (normalize s format document)
  | .diff old new => reading s (diff s format old new)
  | .evaluate document profile version =>
    reading s (evaluate s format config document profile version)
  | .compile document view out zip version =>
    delivering s format (destination s config out zip) (compile s config document view version)
  | .promote document out zip version =>
    delivering s format (destination s config out zip)
      (promote s config configPath document version)
  | .drift document snapshotDir semanticView =>
    reading s (drift s format config document snapshotDir semanticView)
  | .config init display => configure s config configPath init display

/-- Runs a command line. -/
def run (s : Setting) (invocation : Invocation) : Result :=
  let path := invocation.config.getD (Config.defaultPath s.home)
  match Config.load s.files path with
  | .error failure => ⟨"", s.files, some failure⟩
  | .ok config =>
    let overrides : ConfigOverrides :=
      ⟨invocation.database, invocation.schema, none, none, none, none, none⟩
    runCommand s invocation.format (config.override overrides) path invocation.command

end SemanticLayer.Cli
