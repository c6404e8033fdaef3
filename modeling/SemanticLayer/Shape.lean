import SemanticLayer.Number.Shortest
import SemanticLayer.Text.Quoted
/-!
What a value of a typed format has to look like, and the words in which a reader says that another
value stands in its place.
-/
namespace SemanticLayer

/-- The shape of a value. -/
inductive Shape where
  | text
  | flag
  /-- A value that may be left out or null. -/
  | optional (inner : Shape)
  | list (item : Shape)
  /-- A value with named fields, each with its shape and whether it must be given. -/
  | record (name : String) (fields : List (String × Bool × Shape))
  deriving Repr, Inhabited

namespace Shape

/-- What a reader of the shape says that it expected. -/
def expected : Shape → String
  | .text => "a string"
  | .flag => "a boolean"
  | .optional inner => inner.expected
  | .list _ => "a sequence"
  | .record name _ => s!"struct {name}"

/-- The names of fields that must be given. -/
def requiredFields (fields : List (String × Bool × Shape)) : List String :=
  (fields.filter (·.2.1)).map (·.1)

/-- The first field that must be given and is not among those that are. -/
def missing? (fields : List (String × Bool × Shape)) (given : List String) : Option String :=
  (requiredFields fields).find? fun name => !given.contains name

/-- Another value stands in the place of the expected one. -/
def mismatch (found expected : String) : String := s!"invalid type: {found}, expected {expected}"

/-- A field is left out. -/
def missingField (name : String) : String := s!"missing field `{name}`"

/-- A field is given twice. -/
def duplicateField (name : String) : String := s!"duplicate field `{name}`"

/-- How messages show the kinds of values. -/
def foundBool (b : Bool) : String := s!"boolean `{b}`"
def foundInt (n : Int) : String := s!"integer `{n}`"
def foundText (s : String) : String := s!"string {Text.quoted s}"

/-- A text stands in the place of the expected value. -/
def invalidText (text expected : String) : String :=
  s!"invalid value: {foundText text}, expected {expected}"

end Shape
end SemanticLayer
