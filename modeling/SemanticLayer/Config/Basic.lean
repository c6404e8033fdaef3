import SemanticLayer.Compile.Options
import SemanticLayer.Drift.Detection
import SemanticLayer.Evaluation.Threshold
import SemanticLayer.Promotion.Basic
import SemanticLayer.Toml.Reader
/-!
The configuration: where views are deployed unless a document says so, how documents are evaluated,
where bundles are written, and the environments of promotions. Every setting has a default.
-/
namespace SemanticLayer

/-- Why something failed: a message, and below it the messages of the causes. -/
structure Failure where
  message : String
  causes : List String
  deriving DecidableEq, Repr

/-- The messages of a failure on one line. -/
def Failure.line (f : Failure) : String := Text.join ": " (f.message :: f.causes)

/-- The settings. -/
structure Config where
  database : String
  schema : String
  viewName : String
  profile : Profile
  /-- Thresholds by the names of gates. -/
  overrides : List (String × String)
  manualEditThreshold : Nat
  bundleDir : String
  zip : Bool
  environments : List Environment
  snapshotDir : String
  deriving DecidableEq, Repr

/-- Settings that take the place of those of a configuration. -/
structure ConfigOverrides where
  database : Option String
  schema : Option String
  viewName : Option String
  profile : Option Profile
  bundleDir : Option String
  zip : Option Bool
  snapshotDir : Option String
  deriving DecidableEq, Repr

namespace Config

/-- The directory of bundles where none is given. -/
def defaultBundleDir : String := "./bundles"

/-- The settings where none are given. -/
def default : Config where
  database := ""
  schema := ""
  viewName := ""
  profile := .strict
  overrides := []
  manualEditThreshold := DriftOptions.defaultThreshold
  bundleDir := defaultBundleDir
  zip := false
  environments := []
  snapshotDir := ""

def toJson (c : Config) : Json :=
  .obj [
    ("target", .obj [("database", .str c.database), ("schema", .str c.schema),
      ("view_name", .str c.viewName)]),
    ("evaluation", .obj [("profile", .str c.profile.name),
      ("overrides", .obj (c.overrides.map fun (gate, threshold) => (gate, .str threshold)))]),
    ("drift", .obj [("manual_edit_threshold", Json.ofNat c.manualEditThreshold)]),
    ("output", .obj [("bundle_dir", .str c.bundleDir), ("zip", .bool c.zip)]),
    ("environments", .obj (c.environments.map fun (name, view) => (name, view.toJson))),
    ("provider", .obj [("snapshot_dir", .str c.snapshotDir)])]

/-- The profile of a setting: its name, or an empty table under its name. -/
def profileOf? : Json → Option Profile
  | .obj [(name, .obj [])] => Profile.ofJson? (.str name)
  | .str name => Profile.ofJson? (.str name)
  | _ => none

/-- Reads a section, which may be left out, with the names of its settings. -/
def section? (r : Json.Record) (name : String) (settings : List String) :
    Option Json.Record := do
  Json.Record.of? settings (← r.defaulted name (.obj []) Json.any?)

def ofJson? (v : Json) : Option Config := do
  let r ← Json.Record.of?
    ["target", "evaluation", "drift", "output", "environments", "provider"] v
  let target ← section? r "target" ["database", "schema", "view_name"]
  let evaluation ← section? r "evaluation" ["profile", "overrides"]
  let drift ← section? r "drift" ["manual_edit_threshold"]
  let output ← section? r "output" ["bundle_dir", "zip"]
  let provider ← section? r "provider" ["snapshot_dir"]
  return {
    database := ← target.defaulted "database" "" Json.str?
    schema := ← target.defaulted "schema" "" Json.str?
    viewName := ← target.defaulted "view_name" "" Json.str?
    profile := ← evaluation.defaulted "profile" .strict profileOf?
    overrides := ← evaluation.defaulted "overrides" [] (Json.mapOf Json.str?)
    manualEditThreshold := ←
      drift.defaulted "manual_edit_threshold" default.manualEditThreshold Json.unsigned?
    bundleDir := ← output.defaulted "bundle_dir" defaultBundleDir Json.str?
    zip := ← output.defaulted "zip" false Json.bool?
    environments := ← r.defaulted "environments" [] (Json.mapOf View.ofJson?)
    snapshotDir := ← provider.defaulted "snapshot_dir" "" Json.str? }

/-- The settings that a text holds. -/
def parse? (text : String) : Option Config := (Toml.read? text).bind ofJson?

/-- The settings with some of them replaced. -/
def override (c : Config) (o : ConfigOverrides) : Config :=
  { c with
    database := o.database.getD c.database
    schema := o.schema.getD c.schema
    viewName := o.viewName.getD c.viewName
    profile := o.profile.getD c.profile
    bundleDir := o.bundleDir.getD c.bundleDir
    zip := o.zip.getD c.zip
    snapshotDir := o.snapshotDir.getD c.snapshotDir }

/-- Adds an override to a profile. -/
def addOverride (p : ThresholdProfile) (entry : String × String) :
    Except Failure ThresholdProfile :=
  let (gate, threshold) := entry
  match Gate.parse? gate, Threshold.parse? threshold with
  | none, _ =>
    .error ⟨s!"invalid [evaluation.overrides] key '{gate}'", [Gate.unknown gate]⟩
  | some known, none =>
    .error ⟨s!"invalid threshold for gate '{known.name}'", [Threshold.unknown threshold]⟩
  | some known, some threshold => .ok (p.override known threshold)

/-- The thresholds that are set. -/
def thresholds (c : Config) : Except Failure ThresholdProfile :=
  c.overrides.foldlM addOverride (.of c.profile)

/-- The options of a compilation that are set; blank ones are not. -/
def compileOptions (c : Config) (time : Instant) : CompileOptions where
  viewName := Text.nonBlank? c.viewName
  database := Text.nonBlank? c.database
  schema := Text.nonBlank? c.schema
  version := none
  time := time

/-- The options of a detection of differences that are set. -/
def driftOptions (c : Config) : DriftOptions where
  database := Text.nonBlank? c.database
  schema := Text.nonBlank? c.schema
  view := none
  threshold := c.manualEditThreshold

/-- A path below the home directory if it starts with a tilde and a slash. -/
def expandTilde (home path : String) : String :=
  match path.toList with
  | '~' :: '/' :: rest => Path.join home (String.ofList rest)
  | _ => path

/-- The directory of bundles. -/
def bundlePath (c : Config) (home : String) : String := expandTilde home c.bundleDir

/-- The directory of exported files, if one is set. -/
def snapshotPath? (c : Config) (home : String) : Option String :=
  (Text.nonBlank? c.snapshotDir).map (expandTilde home)

/-- The file that is read if none is named. -/
def defaultPath (home : String) : String :=
  Path.join home ".config/odl-governance/config.toml"

/-- The text of a new configuration. -/
def template : String :=
  "# Fallback target when a document has no snowflake block\n" ++
  "[target]\n" ++
  "database = \"\"\n" ++
  "schema = \"\"\n" ++
  "view_name = \"\"\n" ++
  "\n" ++
  "[evaluation]\n" ++
  "profile = \"strict\"\n" ++
  "\n" ++
  "# Per-gate thresholds on top of the profile: required | warning | skip\n" ++
  "[evaluation.overrides]\n" ++
  "# connected_join_graph = \"warning\"\n" ++
  "\n" ++
  "[drift]\n" ++
  "manual_edit_threshold = 5\n" ++
  "\n" ++
  "[output]\n" ++
  "bundle_dir = \"./bundles\"\n" ++
  "zip = false\n" ++
  "\n" ++
  "[provider]\n" ++
  "# Exported table and semantic view definitions\n" ++
  "snapshot_dir = \"\"\n" ++
  "\n" ++
  "# Promotion targets, promoted dev first and prod last\n" ++
  "# [environments.dev]\n" ++
  "# database = \"DEV_DB\"\n" ++
  "# schema = \"SEMANTIC\"\n" ++
  "# view_name = \"sales_semantic_view\"\n" ++
  "#\n" ++
  "# [environments.prod]\n" ++
  "# database = \"PROD_DB\"\n" ++
  "# schema = \"SEMANTIC\"\n" ++
  "# view_name = \"sales_semantic_view\"\n"

/-- The settings of a file; without the file they are the defaults. -/
def load (files : FileTree) (path : String) : Except Failure Config :=
  if !files.pathExists path then .ok default
  else match files.read path with
    | .error e => .error ⟨s!"failed reading config: {path}", [e.message]⟩
    | .ok text =>
      match parse? text with
      | some config => .ok config
      | none => .error ⟨s!"failed parsing TOML config: {path}", ["malformed settings"]⟩

/-- Writes a new configuration. -/
def writeTemplate (files : FileTree) (path : String) : Except Failure FileTree := do
  let files ← match Path.parent? path with
    | none => .ok files
    | some parent =>
      match files.makeFolders parent with
      | .ok files => .ok files
      | .error e => .error ⟨s!"failed creating config directory: {parent}", [e.message]⟩
  match files.write path (.text template) with
  | .ok files => return files
  | .error e => .error ⟨s!"failed writing config template: {path}", [e.message]⟩

end Config
end SemanticLayer
