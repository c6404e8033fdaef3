import SemanticLayer.Files.Path
import SemanticLayer.Keyed
/-!
A tree of files as a value. The tree has a root directory, which has a path of its own; paths are
looked up from the root unless they are absolute. What absolute paths name outside of the root stands
below a slash, which is no name of a file. Writing gives a new tree.
-/
namespace SemanticLayer

/-- What stands at a place of a tree. -/
inductive Entry where
  | folder
  | text (content : String)
  /-- A file that holds no text. -/
  | binary
  /-- An archive with the files that it holds. -/
  | archive (files : List (String × String))
  deriving DecidableEq, Repr

/-- Why a file cannot be read or written. -/
inductive FileError where
  | notFound
  | alreadyExists
  | notAFolder
  | isAFolder
  | notText
  deriving DecidableEq, Repr

/-- The wording of an error. -/
def FileError.message : FileError → String
  | .notFound => "No such file or directory (os error 2)"
  | .alreadyExists => "File exists (os error 17)"
  | .notAFolder => "Not a directory (os error 20)"
  | .isAFolder => "Is a directory (os error 21)"
  | .notText => "stream did not contain valid UTF-8"

/-- A tree of files: what stands at each place, which is a list of names from the root. -/
structure FileTree where
  /-- The absolute path of the root directory. -/
  root : String
  entries : List (List String × Entry)
  deriving Repr

namespace FileTree

/-- A tree with nothing in it. -/
def empty (root : String) : FileTree := ⟨root, []⟩

/-- What stands at a place. The root is a folder. -/
def entry? (t : FileTree) (place : List String) : Option Entry :=
  if place.isEmpty then some .folder
  else (t.entries.find? (·.1 = place)).map (·.2)

/-- Whether a folder stands at a place. -/
def isFolder (t : FileTree) (place : List String) : Bool := t.entry? place = some .folder

/-- Puts an entry at a place, in the stead of what stands there. -/
def put (t : FileTree) (place : List String) (entry : Entry) : FileTree :=
  if t.entries.any (·.1 = place) then
    { t with entries := t.entries.map fun e => if e.1 = place then (place, entry) else e }
  else { t with entries := t.entries ++ [(place, entry)] }

/-- Follows components from a folder. All but the last must be folders that exist; what leads out
of the tree does not exist. -/
def follow (t : FileTree) : List String → List String → Except FileError (List String)
  | place, [] => .ok place
  | place, part :: rest =>
    match t.entry? place with
    | none => .error .notFound
    | some .folder =>
      if part = ".." then
        if place.isEmpty then .error .notFound else t.follow place.dropLast rest
      else t.follow (place ++ [part]) rest
    | some _ => .error .notAFolder

/-- The components of a path, from the root of the tree. -/
def componentsOf (t : FileTree) (path : String) : List String :=
  let root := t.root.toList
  let rest := path.toList.drop root.length
  if root.isPrefixOf path.toList && (rest.isEmpty || rest.head? = some '/') then
    Path.components (String.ofList rest)
  else if Path.isAbsolute path then "/" :: Path.components path
  else Path.components path

/-- The place that a path names. A path that ends in a slash must not name a file. -/
def locate (t : FileTree) (path : String) : Except FileError (List String) :=
  if path.isEmpty then .error .notFound
  else do
    let place ← t.follow [] (t.componentsOf path)
    match t.entry? place with
    | none => return place
    | some .folder => return place
    | some _ => if Path.endsInSlash path then .error .notAFolder else return place

/-- What stands at a path. -/
def get? (t : FileTree) (path : String) : Option Entry :=
  match t.locate path with
  | .ok place => t.entry? place
  | .error _ => none

/-- Whether anything stands at a path. -/
def pathExists (t : FileTree) (path : String) : Bool := (t.get? path).isSome

/-- Whether a folder stands at a path. -/
def isFolderAt (t : FileTree) (path : String) : Bool := t.get? path = some .folder

/-- The text of a file. -/
def read (t : FileTree) (path : String) : Except FileError String := do
  match t.entry? (← t.locate path) with
  | none => .error .notFound
  | some .folder => .error .isAFolder
  | some (.text content) => return content
  | some .binary => .error .notText
  | some (.archive _) => .error .notText

/-- The names in a folder, in increasing order. -/
def names (t : FileTree) (place : List String) : List String :=
  textSet (t.entries.filterMap fun (p, _) =>
    if p.dropLast = place then p.getLast? else none)

/-- Makes one folder, in a folder that exists. -/
def makeFolder (t : FileTree) (path : String) : Except FileError FileTree := do
  let place ← t.locate path
  match t.entry? place with
  | some _ => .error .alreadyExists
  | none =>
    match t.entry? place.dropLast with
    | some .folder => return t.put place .folder
    | some _ => .error .notAFolder
    | none => .error .notFound

/-- Makes a folder unless there is one. -/
def ensureFolder (t : FileTree) (path : String) : Except FileError FileTree :=
  match t.makeFolder path with
  | .ok t => .ok t
  | .error e => if t.isFolderAt path then .ok t else .error e

/-- Makes a folder and all folders above it. The parent of a path is shorter, so the length of the
path is enough fuel. -/
def makeFoldersFrom (fuel : Nat) (t : FileTree) (path : String) : Except FileError FileTree :=
  if path.isEmpty then .ok t
  else match t.ensureFolder path with
    | .ok t => .ok t
    | .error .notFound =>
      match fuel, Path.parent? path with
      | fuel + 1, some parent => do (← makeFoldersFrom fuel t parent).ensureFolder path
      | _, _ => .error .notFound
    | .error e => .error e

/-- Makes a folder and all folders above it. -/
def makeFolders (t : FileTree) (path : String) : Except FileError FileTree :=
  makeFoldersFrom path.length t path

/-- Writes a file into a folder that exists. -/
def write (t : FileTree) (path : String) (content : Entry) : Except FileError FileTree := do
  let place ← t.locate path
  match t.entry? place with
  | some .folder => .error .isAFolder
  | some _ => return t.put place content
  | none =>
    if Path.endsInSlash path then .error .isAFolder
    else match t.entry? place.dropLast with
      | some .folder => return t.put place content
      | some _ => .error .notAFolder
      | none => .error .notFound

/-- Puts a file into a tree, with all folders above it. -/
def seed (t : FileTree) (path : String) (content : Entry) : FileTree :=
  let place := t.componentsOf path
  let folders := (List.range place.length).tail.map fun n => place.take n
  let t := folders.foldl (fun t p => if (t.entry? p).isSome then t else t.put p .folder) t
  t.put place content

/-- Puts a folder into a tree, with all folders above it. -/
def seedFolder (t : FileTree) (path : String) : FileTree :=
  if (t.entry? (t.componentsOf path)).isSome then t else t.seed path .folder

/-- The entries that are new or other than in an earlier tree, in the order of their places. -/
def changesSince (t earlier : FileTree) : List (List String × Entry) :=
  t.entries.filter fun (place, entry) => earlier.entry? place != some entry

end FileTree
end SemanticLayer
