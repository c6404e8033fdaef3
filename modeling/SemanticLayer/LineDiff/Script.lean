/-!
Edit scripts from one list of lines to another: lines that are kept, dropped and added. A script is
written with one character in front of each line. Every line keeps its line break; a last line
without one is given one when it is written.
-/
namespace SemanticLayer.LineDiff

/-- The lines of a text, each with the line break that ends it: a line feed, a carriage return, or
both together. `line` is what was read of the current line, reversed. -/
def splitLines (line : List Char) : List Char → List (List Char)
  | [] => if line.isEmpty then [] else [line.reverse]
  | '\r' :: '\n' :: rest => ('\n' :: '\r' :: line).reverse :: splitLines [] rest
  | c :: rest =>
    if c = '\r' || c = '\n' then (c :: line).reverse :: splitLines [] rest
    else splitLines (c :: line) rest

/-- The lines of a text. -/
def linesOf (text : String) : List String := (splitLines [] text.toList).map String.ofList

/-- A run of lines in an edit script. -/
inductive Block where
  | keep (lines : List String)
  | drop (lines : List String)
  | add (lines : List String)
  deriving DecidableEq, Repr

namespace Block

/-- The lines of a block. -/
def lines : Block → List String
  | .keep lines => lines
  | .drop lines => lines
  | .add lines => lines

/-- The lines of the old text in a block. -/
def old : Block → List String
  | .keep lines => lines
  | .drop lines => lines
  | .add _ => []

/-- The lines of the new text in a block. -/
def new : Block → List String
  | .keep lines => lines
  | .drop _ => []
  | .add lines => lines

end Block

/-- The text that a script starts from. -/
def oldLines (script : List Block) : List String := script.flatMap Block.old

/-- The text that a script ends with. -/
def newLines (script : List Block) : List String := script.flatMap Block.new

/-- The blocks of a script in the order in which they are written: between two blocks that are
kept, first all dropped lines and then all added ones. `dropped` and `added` are those so far. -/
def grouped (dropped added : List String) : List Block → List Block
  | [] => [.drop dropped, .add added]
  | .keep lines :: rest => .drop dropped :: .add added :: .keep lines :: grouped [] [] rest
  | .drop lines :: rest => grouped (dropped ++ lines) added rest
  | .add lines :: rest => grouped dropped (added ++ lines) rest

/-- Whether a line ends in a line break. -/
def endsLine (line : String) : Bool :=
  match line.toList.getLast? with
  | some c => c = '\n' || c = '\r'
  | none => false

/-- A line with its sign. -/
def signedLine (sign : String) (line : String) : String :=
  sign ++ line ++ if endsLine line then "" else "\n"

/-- A block with the sign of each line. -/
def Block.render : Block → String
  | .keep lines => String.join (lines.map (signedLine " "))
  | .drop lines => String.join (lines.map (signedLine "-"))
  | .add lines => String.join (lines.map (signedLine "+"))

/-- A script as a text. -/
def render (script : List Block) : String :=
  String.join ((grouped [] [] script).map Block.render)

end SemanticLayer.LineDiff
