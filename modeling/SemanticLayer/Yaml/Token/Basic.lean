import SemanticLayer.Yaml.Cursor
import SemanticLayer.Yaml.Writer
/-!
The tokens of a YAML text. Indentation is made explicit: a block collection has a token where it
starts and one where it ends.
-/
namespace SemanticLayer.Yaml

/-- What a token is. -/
inductive Lexeme where
  | streamEnd
  | versionDirective (major minor : Nat)
  | tagDirective (handle uri : String)
  | documentStart
  | documentEnd
  | blockSequenceStart
  | blockMappingStart
  | blockEnd
  | flowSequenceStart
  | flowSequenceEnd
  | flowMappingStart
  | flowMappingEnd
  | blockEntry
  | flowEntry
  | key
  | value
  | alias (name : String)
  | anchor (name : String)
  | tag (handle suffix : String)
  | scalar (text : String) (style : Style)
  deriving DecidableEq, Repr

/-- A token and the places where it starts and ends. -/
structure Token where
  lexeme : Lexeme
  start : Mark
  stop : Mark
  deriving DecidableEq, Repr

end SemanticLayer.Yaml
