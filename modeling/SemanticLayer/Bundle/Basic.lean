import SemanticLayer.Calendar
import SemanticLayer.Digest.Sha256
import SemanticLayer.Json.Record
import SemanticLayer.Json.Writer
import SemanticLayer.Keyed
import SemanticLayer.Text.Ascii
/-!
Bundles of files for deployment. The checksum of a bundle is the hash of the paths and contents of
all files except the metadata, in the order of their paths. It does not depend on the time, so it
identifies what is deployed.
-/
namespace SemanticLayer

/-- A file of a bundle. -/
structure Artifact where
  path : String
  content : String
  deriving DecidableEq, Repr

/-- What a bundle says of itself. -/
structure Metadata where
  target : String
  timestamp : String
  version : Option Int
  checksum : String
  deriving DecidableEq, Repr

/-- A bundle. -/
structure Bundle where
  name : String
  files : List Artifact
  metadata : Metadata
  deriving DecidableEq, Repr

namespace Artifact

/-- Files every bundle must have. -/
def instructionsPath : String := "instructions.md"
def rollbackPath : String := "rollback.md"

/-- The file that holds the metadata. -/
def metadataPath : String := "metadata.json"

/-- Whether a file is other than the metadata. -/
def isContent (f : Artifact) : Bool := f.path ≠ metadataPath

/-- The text of a file in a checksum. -/
def entry (f : Artifact) : String := s!"{f.path}:{f.content}"

/-- Files in the order of their paths. -/
def byPath (files : List Artifact) : List Artifact :=
  files.mergeSort fun a b => textLe a.path b.path

def toJson (f : Artifact) : Json := .obj [("path", .str f.path), ("content", .str f.content)]

def ofJson? (v : Json) : Option Artifact := do
  let r ← Json.Record.of? ["path", "content"] v
  return {
    path := ← r.required "path" Json.str?
    content := ← r.required "content" Json.str? }

end Artifact

/-- The text that is hashed for a checksum. -/
def checksumText (files : List Artifact) : String :=
  Text.join "\n" ((Artifact.byPath files).map Artifact.entry)

/-- The checksum of files. -/
def checksum (files : List Artifact) : String := Digest.hashText (checksumText files)

/-- An optional integer, with null for none. -/
def Json.ofInt? : Option Int → Json
  | some n => .int n
  | none => .null

namespace Metadata

def toJson (m : Metadata) : Json :=
  .obj [("target", .str m.target), ("timestamp", .str m.timestamp),
    ("version_id", Json.ofInt? m.version), ("checksum", .str m.checksum)]

def ofJson? (v : Json) : Option Metadata := do
  let r ← Json.Record.of? ["target", "timestamp", "version_id", "checksum"] v
  return {
    target := ← r.required "target" Json.str?
    timestamp := ← r.required "timestamp" Json.str?
    version := ← r.optional "version_id" (Json.orNull Json.signed?)
    checksum := ← r.required "checksum" Json.str? }

/-- The content of the file that holds the metadata. -/
def render (m : Metadata) : String := m.toJson.pretty ++ "\n"

end Metadata

namespace Bundle

/-- The bundle of some files, with its metadata among them. An earlier file of that path is left
out. If a file that every bundle must have is missing, the error is its path. -/
def assemble (name : String) (files : List Artifact) (target : String) (version : Option Int)
    (time : Instant) : Except String Bundle :=
  let required := [Artifact.instructionsPath, Artifact.rollbackPath]
  match required.find? fun path => !files.any (·.path = path) with
  | some path => .error path
  | none =>
    let content := files.filter Artifact.isContent
    let metadata : Metadata := ⟨target, time.text, version, checksum content⟩
    .ok ⟨name, Artifact.byPath (Artifact.byPath content ++ [⟨Artifact.metadataPath, metadata.render⟩]),
      metadata⟩

/-- The first file of a path. -/
def file? (b : Bundle) (path : String) : Option Artifact := b.files.find? (·.path = path)

/-- The paths of the files. -/
def paths (b : Bundle) : List String := b.files.map (·.path)

/-- The checksum of the files as they are. -/
def actualChecksum (b : Bundle) : String := checksum (b.files.filter Artifact.isContent)

/-- Whether the files are those that the metadata speaks of. -/
def verify (b : Bundle) : Bool := b.actualChecksum == b.metadata.checksum

def ofJson? (v : Json) : Option Bundle := do
  let r ← Json.Record.of? ["name", "files", "metadata"] v
  return {
    name := ← r.required "name" Json.str?
    files := ← r.required "files" (Json.listOf Artifact.ofJson?)
    metadata := ← r.required "metadata" Metadata.ofJson? }

end Bundle
end SemanticLayer
