import SemanticLayer.Bundle.Basic
import SemanticLayer.Files.Tree
/-!
Bundles as files: one file for each artifact below a directory, or one archive of them all. Writing
stops at the first file that cannot be written and leaves those before it.
-/
namespace SemanticLayer

/-- A file or a directory of a bundle that cannot be written. -/
structure WriteError where
  path : String
  error : FileError
  deriving DecidableEq, Repr

/-- The wording of an error. -/
def WriteError.message (e : WriteError) : String := s!"failed writing {e.path}: {e.error.message}"

namespace Bundle

/-- Makes the directory of a file and writes the file. -/
def writeFile (files : FileTree) (path : String) (entry : Entry) : Except WriteError FileTree := do
  let parent := (Path.parent? path).getD ""
  match files.makeFolders parent with
  | .error e => .error ⟨parent, e⟩
  | .ok files =>
    match files.write path entry with
    | .error e => .error ⟨path, e⟩
    | .ok files => .ok files

/-- Writes artifacts below a directory. Gives the files afterwards and the paths that were written. -/
def writeAll (dir : String) : List Artifact → FileTree → FileTree × Except WriteError (List String)
  | [], files => (files, .ok [])
  | artifact :: rest, files =>
    let path := Path.join dir artifact.path
    match writeFile files path (.text artifact.content) with
    | .error e => (files, .error e)
    | .ok files =>
      let (files, written) := writeAll dir rest files
      (files, written.map (path :: ·))

/-- Writes the files of a bundle below a directory. -/
def writeToDir (b : Bundle) (dir : String) (files : FileTree) :
    FileTree × Except WriteError (List String) :=
  writeAll dir b.files files

/-- Writes a bundle as an archive. -/
def writeArchive (b : Bundle) (path : String) (files : FileTree) : Except WriteError FileTree :=
  writeFile files path (.archive (b.files.map fun f => (f.path, f.content)))

end Bundle
end SemanticLayer
