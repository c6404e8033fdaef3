import SemanticLayer.Text.Ascii
/-!
Paths as texts with slashes. A path that starts with a slash is absolute; empty parts and parts of
one point stand for nothing.
-/
namespace SemanticLayer.Path

/-- Whether a path starts at the root of all files. -/
def isAbsolute (path : String) : Bool := path.toList.head? = some '/'

/-- The parts of a path between its slashes, all of them. -/
def parts (path : String) : List String :=
  (Text.splitAtChar '/' path.toList).map String.ofList

/-- The parts of a path that stand for something. -/
def components (path : String) : List String :=
  (parts path).filter fun part => part ≠ "" ∧ part ≠ "."

/-- A path below another one; an absolute path stands for itself. -/
def join (dir path : String) : String :=
  if isAbsolute path || dir.isEmpty then path
  else if dir.toList.getLast? = some '/' then dir ++ path
  else dir ++ "/" ++ path

/-- Drops the slashes, and the parts of one point between slashes, at the end of reversed
characters. -/
def dropSlashes : List Char → List Char
  | '/' :: rest => dropSlashes rest
  | '.' :: '/' :: rest => dropSlashes ('/' :: rest)
  | cs => cs

/-- The path without its last component. The root has no parent. -/
def parent? (path : String) : Option String :=
  let whole := dropSlashes path.toList.reverse
  if whole.isEmpty then if path.isEmpty || isAbsolute path then none else some ""
  else
    let rest := whole.dropWhile (· ≠ '/')
    let stripped := dropSlashes rest
    if stripped.isEmpty && !rest.isEmpty && isAbsolute path then some "/"
    else some (String.ofList stripped.reverse)

/-- The last component of a path, unless it leads upwards. -/
def fileName? (path : String) : Option String :=
  match (components path).getLast? with
  | some name => if name = ".." then none else some name
  | none => none

/-- What follows the last point of a file name, unless the name starts with its only point. -/
def extension? (path : String) : Option String :=
  (fileName? path).bind fun name =>
    let reversed := name.toList.reverse
    match reversed.dropWhile (· ≠ '.') with
    | '.' :: _ :: _ => some (String.ofList (reversed.takeWhile (· ≠ '.')).reverse)
    | _ => none

/-- Whether a path ends in a slash. -/
def endsInSlash (path : String) : Bool := path.toList.getLast? = some '/'

end SemanticLayer.Path
