import SemanticLayer.Document.Validation
import SemanticLayer.Files.Tree
import SemanticLayer.Json.Reader
import SemanticLayer.Ontology.Normalize
import SemanticLayer.Yaml.Node.Value
/-!
Where documents come from: a file, a text or a value. A file whose name ends in `.yaml` or `.yml` is
read as YAML, any other one as JSON.
-/
namespace SemanticLayer.Document

/-- A source of a document. -/
inductive Source where
  | file (path : String)
  | text (text : String)
  | value (value : Json)

/-- Why a document cannot be had. -/
inductive LoadError where
  | notFound (path : String)
  | malformed (name message : String)
  | unreadable (path : String) (error : FileError)
  deriving DecidableEq, Repr

/-- The wording of an error. -/
def LoadError.message : LoadError → String
  | .notFound path => s!"document not found: {path}"
  | .malformed name message => s!"malformed document {name}: {message}"
  | .unreadable path error => s!"failed reading {path}: {error.message}"

/-- Whether a file of this name holds YAML. -/
def isYaml (path : String) : Bool :=
  match Path.extension? path with
  | some ext => ["yaml", "yml"].contains (Text.asciiLower ext)
  | none => false

/-- The value of a JSON text. -/
def readJson (name text : String) : Except LoadError Json :=
  match Json.read text with
  | .ok value => .ok value
  | .error fault => .error (.malformed name fault.message)

/-- The value of a YAML text. -/
def readYaml (name text : String) : Except LoadError Json :=
  match Yaml.readValue text with
  | .ok value => .ok value
  | .error message => .error (.malformed name message)

/-- The document in a file. -/
def loadFile (files : FileTree) (path : String) : Except LoadError Json :=
  if !files.pathExists path then .error (.notFound path)
  else match files.read path with
    | .error e => .error (.unreadable path e)
    | .ok text => if isYaml path then readYaml path text else readJson path text

/-- The document of a source. -/
def load (files : FileTree) : Source → Except LoadError Json
  | .file path => loadFile files path
  | .text text => readJson "<string>" text
  | .value value => .ok value

/-- A document with its verdict and the ontology that it describes, valid or not. -/
structure Processed where
  document : Json
  report : Report
  ontology : Ontology

/-- Loads a document, validates it and takes its ontology. -/
def process (files : FileTree) (source : Source) : Except LoadError Processed := do
  let document ← load files source
  return ⟨document, validate document, normalize document⟩

/-- Why a document gives no ontology. -/
inductive DocumentError where
  | load (error : LoadError)
  | invalid (findings : List Finding)

/-- The wording of an error. -/
def DocumentError.message : DocumentError → String
  | .load error => error.message
  | .invalid findings => s!"document is invalid: {findings.length} error(s)"

/-- The ontology of a valid document. -/
def Processed.valid (p : Processed) : Except DocumentError Ontology :=
  if p.report.isValid then .ok p.ontology else .error (.invalid p.report.findings)

/-- The ontology of a source that holds a valid document. -/
def loadValid (files : FileTree) (source : Source) : Except DocumentError Ontology :=
  match process files source with
  | .error e => .error (.load e)
  | .ok processed => processed.valid

end SemanticLayer.Document
