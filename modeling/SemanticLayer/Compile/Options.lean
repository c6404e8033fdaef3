import SemanticLayer.Calendar
import SemanticLayer.Model.Basic
import SemanticLayer.Text.Blank
/-!
Where a model is deployed: the view that an ontology and the options of a compilation name together.
-/
namespace SemanticLayer

/-- The options of a compilation. -/
structure CompileOptions where
  viewName : Option String
  database : Option String
  schema : Option String
  version : Option Int
  time : Instant
  deriving Repr, Inhabited

/-- Why an ontology cannot be compiled. -/
inductive CompileError where
  | missingDatabase
  | missingSchema
  | emptyViewName
  /-- A file that every bundle must have is missing. -/
  | missingFile (path : String)
  deriving DecidableEq, Repr

/-- The wording of an error about a file that a bundle must have. -/
def missingFileMessage (path : String) : String := s!"bundle is missing mandatory file {path}"

/-- The wording of an error. -/
def CompileError.message : CompileError → String
  | .missingDatabase =>
    "no target database given and the document declares no mapping block for it"
  | .missingSchema => "no target schema given and the document declares no mapping block for it"
  | .emptyViewName => "semantic view name must not be empty"
  | .missingFile path => missingFileMessage path

namespace Compile

/-- How a character of the name of an ontology stands in the name of its view. -/
def viewChar (c : Char) : Char := if c.isAlphanum then c.toLower else '_'

/-- The name of the view of an ontology for which none is given. -/
def defaultViewName (o : Ontology) : String :=
  let base := (Text.trimChars o.name.toList).map viewChar
  if base.isEmpty then "semantic_view" else String.ofList base ++ "_semantic_view"

/-- The view of an ontology. A given place comes before that of its mapping, and blank names are
none; only a view name that is given must not be blank. -/
def resolveView (o : Ontology) (options : CompileOptions) : Except CompileError View := do
  let given (option : Option String) (mapped : Mapping → String) : Option String :=
    option.bind Text.nonBlank? <|> o.mapping.bind fun m => Text.nonBlank? (mapped m)
  let database ← (given options.database Mapping.database).elim (.error .missingDatabase) .ok
  let schema ← (given options.schema Mapping.schema).elim (.error .missingSchema) .ok
  let name ← match options.viewName with
    | some name => (Text.nonBlank? name).elim (.error .emptyViewName) .ok
    | none => .ok (defaultViewName o)
  return ⟨database, schema, name⟩

end Compile
end SemanticLayer
