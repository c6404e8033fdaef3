import SemanticLayer.Cli.Run
import SemanticLayer.Files.Archive
import Std.Time.DateTime.Timestamp
/-!
The command line program. The command sees the working directory and the folders that its words and
its configuration name; what it changes in them is written when it is done.
-/
namespace SemanticLayer.Cli

/-- How deep folders are read. -/
def readingDepth : Nat := 64

/-- Reads what stands at a path, and all below it, into a tree. -/
def readInto : Nat → FileTree → String → IO FileTree
  | 0, tree, _ => return tree
  | depth + 1, tree, path => do
    let place := (← IO.currentDir) / path
    if !(← place.pathExists) then return tree
    else if ← place.isDir then
      let mut tree := tree.seedFolder path
      for entry in ← place.readDir do
        tree ← readInto depth tree (Path.join path entry.fileName)
      return tree
    else
      let content := match String.fromUTF8? (← IO.FS.readBinFile place) with
        | some text => Entry.text text
        | none => Entry.binary
      return tree.seed path content

/-- Reads what stands at a path into a tree, if its first folder is not there already. -/
def readMore (tree : FileTree) (path : String) : IO FileTree :=
  if tree.pathExists path then return tree else readInto readingDepth tree path

/-- The paths outside of the working directory that an invocation may name. -/
def pathsOf (home : String) (invocation : Invocation) (words : List String) : List String :=
  invocation.config.getD (Config.defaultPath home) :: words.map (Config.expandTilde home)

/-- The bytes of an entry that is a file. -/
def contentOf : Entry → Option ByteArray
  | .text content => some content.toUTF8
  | .archive files =>
    let members := files.map fun (name, content) =>
      (⟨Text.toBytes name, Text.toBytes content⟩ : Archive.Member)
    some ⟨(Archive.bytes members).toArray⟩
  | .binary => none
  | .folder => none

/-- The path of a place of a tree; what stands below a slash is outside of its root. -/
def pathOf : List String → String
  | "/" :: parts => "/" ++ Text.join "/" parts
  | parts => Text.join "/" parts

/-- Writes an entry that is new or changed. -/
def writeEntry (place : List String) (entry : Entry) : IO Unit := do
  match entry, contentOf entry with
  | .folder, _ => IO.FS.createDirAll (pathOf place)
  | _, some content => IO.FS.writeBinFile (pathOf place) content
  | _, none => return

/-- Runs a command line and gives the exit status. -/
def runWords (invocation : Invocation) (words : List String) : IO UInt32 := do
  let here := toString (← IO.currentDir)
  let home := (← IO.getEnv "HOME").getD ""
  let now : Instant := ⟨(← Std.Time.Timestamp.now).toSecondsSinceUnixEpoch.val⟩
  let tree ← readInto readingDepth (FileTree.empty here) "."
  let tree ← (pathsOf home invocation words).foldlM readMore tree
  let tree ← match Config.load tree (invocation.config.getD (Config.defaultPath home)) with
    | .ok config =>
      (config.bundlePath home :: (config.snapshotPath? home).toList).foldlM readMore tree
    | .error _ => pure tree
  let result := run ⟨tree, home, now⟩ invocation
  IO.print result.output
  for (place, entry) in result.files.changesSince tree do
    writeEntry place entry
  for failure in result.failure do
    IO.eprint (failureText failure)
  return UInt32.ofNat result.status

end SemanticLayer.Cli

open SemanticLayer in
def main (words : List String) : IO UInt32 := do
  match Cli.parse? words with
  | some invocation => Cli.runWords invocation words
  | none =>
    IO.eprintln Cli.usage
    return 2
