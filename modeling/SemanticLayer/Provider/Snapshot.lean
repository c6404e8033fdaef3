import SemanticLayer.Json.Shape
import SemanticLayer.Provider.Basic
/-!
A warehouse exported to files. Below a root directory each database and in it each schema has a
directory, which holds a JSON file for each table and in `views` a YAML file for each view. A name
that is not found as it is written is found in any letter case.
-/
namespace SemanticLayer.Snapshot

/-- The path of an entry of a directory. -/
def find? (files : FileTree) (dir name : String) : Option String :=
  let exact := Path.join dir name
  if files.pathExists exact then some exact
  else match files.locate dir with
    | .error _ => none
    | .ok place =>
      if files.isFolder place then
        ((files.names place).find? fun n => Text.sameIgnoringCase n name).map (Path.join dir)
      else none

/-- The directory of a schema. -/
def schemaDir? (files : FileTree) (root database schema : String) : Option String :=
  (find? files root database).bind fun dir => find? files dir schema

/-- The text of a file that was found. -/
def read (files : FileTree) (path : String) : Except ProviderError String :=
  match files.read path with
  | .ok text => .ok text
  | .error e => .error (.unreadable path e)

/-- The table that a file holds. -/
def readTable (files : FileTree) (path : String) : Except ProviderError LiveTable := do
  let text ← read files path
  match Json.readShaped LiveTable.shape text with
  | .error fault => .error (.malformed path fault.message)
  | .ok value =>
    match LiveTable.ofJson? value with
    | some table => return table
    | none => .error (.malformed path "not a table")

/-- The table of a name. -/
def table? (files : FileTree) (root database schema table : String) :
    Except ProviderError (Option LiveTable) :=
  let path := (schemaDir? files root database schema).bind fun dir =>
    find? files dir (table ++ ".json")
  match path with
  | none => .ok none
  | some path => (readTable files path).map some

/-- The view of a name. -/
def view? (files : FileTree) (root database schema view : String) :
    Except ProviderError (Option LiveView) :=
  let path := ((schemaDir? files root database schema).bind fun dir =>
    find? files dir "views").bind fun dir => find? files dir (view ++ ".yaml")
  match path with
  | none => .ok none
  | some path => (read files path).map fun yaml => some ⟨view, yaml⟩

/-- The exported files below a directory as a provider. -/
def provider (files : FileTree) (root : String) : Provider where
  name := "snapshot"
  table? := table? files root
  view? := view? files root

end SemanticLayer.Snapshot
