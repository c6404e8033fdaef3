import SemanticLayer.Document.Finding
import SemanticLayer.Text.Blank
/-!
Checks of a single field of a record: whether it is there, and whether it is of the right kind. An
optional field may be null.
-/
namespace SemanticLayer.Document

open Json (Pointer)

/-- The name of a record, as messages give it. -/
def nameOf (v : Json) : String := v.textOr "name" "?"

/-- Each item of a list with its index. -/
def indexed (items : List α) : List (String × α) :=
  items.zipIdx.map fun (item, index) => (toString index, item)

/-- A name must be a text that is not blank. -/
def requireName (kind : String) (place : Pointer) (v : Json) : List Finding :=
  let place := place ++ ["name"]
  match v.get? "name" with
  | none => [finding s!"{kind} is missing required field 'name'" place]
  | some (.str name) =>
    if Text.allBlank name then [findingOf s!"{kind} name must not be empty" place (.str name)]
    else []
  | some other => [findingOf s!"{kind} name must be a string" place other]

/-- A field that must be there and be a text. -/
def requireText (key : String) (place : Pointer) (v : Json) : List Finding :=
  let place := place ++ [key]
  match v.get? key with
  | none => [finding s!"Missing required field '{key}'" place]
  | some (.str _) => []
  | some other => [findingOf s!"Field '{key}' must be a string" place other]

/-- A field that is a text or null, if it is there. -/
def allowText (key : String) (place : Pointer) (v : Json) : List Finding :=
  match v.get? key with
  | none => []
  | some .null => []
  | some (.str _) => []
  | some other => [findingOf s!"Field '{key}' must be a string" (place ++ [key]) other]

/-- A field that is a truth value or null, if it is there. -/
def allowFlag (key : String) (place : Pointer) (v : Json) : List Finding :=
  match v.get? key with
  | none => []
  | some .null => []
  | some (.bool _) => []
  | some other => [findingOf s!"Field '{key}' must be a boolean" (place ++ [key]) other]

/-- The items of an array, each checked at its own place. -/
def checkItems (place : Pointer) (check : Pointer → Json → List Finding) (items : List Json) :
    List Finding :=
  (indexed items).flatMap fun (index, item) => check (place ++ [index]) item

/-- A field that is an array or null, if it is there, with a check of each item. -/
def allowArray (key : String) (place : Pointer) (v : Json)
    (check : Pointer → Json → List Finding) : List Finding :=
  let place := place ++ [key]
  match v.get? key with
  | none => []
  | some .null => []
  | some (.arr items) => checkItems place check items
  | some other => [findingOfKind s!"Field '{key}' must be an array" place other]

/-- A field that must be there and be an array, with a check of each item. -/
def requireArray (key missing : String) (place : Pointer) (v : Json)
    (check : Pointer → Json → List Finding) : List Finding :=
  let place := place ++ [key]
  match v.get? key with
  | none => [finding missing place]
  | some (.arr items) => checkItems place check items
  | some other => [findingOfKind s!"Field '{key}' must be an array" place other]

end SemanticLayer.Document
