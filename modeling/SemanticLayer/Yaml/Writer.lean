import SemanticLayer.Yaml.Chars
import SemanticLayer.Yaml.Plain
/-!
Writing YAML in block style. A mapping starts at two columns more than its key, a sequence at the
column of its key, and lines may be of any length. A string is written plain where that reads back
as the same string, in single quotes where it would not, as a literal block if it has line feeds
and a block can hold it, and in double quotes with escapes otherwise.
-/
namespace SemanticLayer.Yaml

/-- What is written: strings, sequences, and mappings whose keys are plain words. -/
inductive Tree where
  | scalar (text : String)
  | seq (items : List Tree)
  | map (entries : List (String × Tree))
  deriving Repr, Inhabited

/-- The ways to write a string. -/
inductive Style where
  | plain
  | single
  | double
  | literal
  | folded
  deriving DecidableEq, Repr

/-- Whether a space stands directly before a line break. -/
def spaceBeforeBreak : List Char → Bool
  | ' ' :: c :: rest => isBreak c || spaceBeforeBreak (c :: rest)
  | _ :: rest => spaceBeforeBreak rest
  | [] => false

/-- Whether a space stands directly behind a line break. -/
def spaceAfterBreak : List Char → Bool
  | c :: ' ' :: rest => isBreak c || spaceAfterBreak (' ' :: rest)
  | _ :: rest => spaceAfterBreak rest
  | [] => false

/-- Indicators that no plain scalar may start with. -/
def isOpeningIndicator (c : Char) : Bool :=
  ['#', ',', '[', ']', '{', '}', '&', '*', '!', '|', '>', '\'', '"', '%', '@', '`'].contains c

/-- Whether the characters behind the first hold a colon before a space or a number sign behind
one; `spaced` says whether the character before them is a space. -/
def innerIndicator (spaced : Bool) : List Char → Bool
  | [] => false
  | c :: rest =>
    (c = ':' && atSpacing rest) || (c = '#' && spaced) || innerIndicator (isSpacing c) rest

/-- Whether a string holds an indicator that would end or change a plain scalar in a block. -/
def hasIndicator (cs : List Char) : Bool :=
  ['-', '-', '-'].isPrefixOf cs || ['.', '.', '.'].isPrefixOf cs ||
  match cs with
  | [] => false
  | c :: rest =>
    isOpeningIndicator c || (['?', ':', '-'].contains c && atSpacing rest)
      || innerIndicator (isSpacing c) rest

/-- Whether a list starts or ends with a character of a class. -/
def atEitherEnd (p : Char → Bool) (cs : List Char) : Bool :=
  cs.head?.any p || cs.getLast?.any p

/-- Whether a string can be written plain in a block. -/
def plainAllowed (cs : List Char) : Bool :=
  cs.all isPrintable && !cs.any isBreak && !atEitherEnd (· = ' ') cs && !hasIndicator cs

/-- Whether a string can be written in single quotes. -/
def singleAllowed (cs : List Char) : Bool :=
  cs.all isPrintable && !spaceBeforeBreak cs && !spaceAfterBreak cs

/-- Whether a string can be written as a literal block. -/
def literalAllowed (cs : List Char) : Bool :=
  !cs.isEmpty && cs.all isPrintable && !spaceBeforeBreak cs && cs.getLast? != some ' '

/-- How a string is written. -/
def styleOf (s : String) : Style :=
  let cs := s.toList
  if cs.contains '\n' then if literalAllowed cs then .literal else .double
  else if !Plain.isAmbiguous s && plainAllowed cs then .plain
  else if singleAllowed cs then .single
  else .double

/-- Spaces up to a column. -/
def indentation (column : Nat) : List Char := List.replicate column ' '

/-- The inside of single quotes: a quote is doubled, and a line that follows a break is indented.
`broken` says whether a break was the last character. -/
def singleChars (column : Nat) (broken : Bool) : List Char → List Char
  | [] => if broken then indentation column else []
  | c :: rest =>
    if isBreak c then c :: singleChars column true rest
    else
      (if broken then indentation column else []) ++
        (if c = '\'' then ['\'', '\''] else [c]) ++ singleChars column false rest

/-- The upper-case hexadecimal digit of a number below sixteen. -/
def upperHex (n : Nat) : Char :=
  if n < 10 then Char.ofNat (48 + n) else Char.ofNat (55 + n)

/-- The last `count` hexadecimal digits of a number. -/
def hexDigits : Nat → Nat → List Char
  | 0, _ => []
  | count + 1, n => hexDigits count (n / 16) ++ [upperHex (n % 16)]

/-- The escape of a character in double quotes. -/
def escape (c : Char) : List Char :=
  let n := c.toNat
  '\\' ::
    (if n = 0 then ['0'] else if n = 7 then ['a'] else if n = 8 then ['b']
    else if n = 9 then ['t'] else if n = 0xA then ['n'] else if n = 0xB then ['v']
    else if n = 0xC then ['f'] else if n = 0xD then ['r'] else if n = 0x1B then ['e']
    else if n = 0x22 then ['"'] else if n = 0x5C then ['\\'] else if n = 0x85 then ['N']
    else if n = 0xA0 then ['_'] else if n = 0x2028 then ['L'] else if n = 0x2029 then ['P']
    else if n ≤ 0xFF then 'x' :: hexDigits 2 n
    else if n ≤ 0xFFFF then 'u' :: hexDigits 4 n
    else 'U' :: hexDigits 8 n)

/-- The inside of double quotes. -/
def doubleChars (cs : List Char) : List Char :=
  cs.flatMap fun c =>
    if !isPrintable c || isBreak c || c = '"' || c = '\\' then escape c else [c]

/-- The marks behind the bar of a literal block: the indentation if the first line starts with a
space or is empty, and whether no line break or all of them are kept at the end. -/
def literalHeader (cs : List Char) : List Char :=
  (if cs.head?.any fun c => c = ' ' || isBreak c then ['2'] else []) ++
  match cs.reverse with
  | [] => ['-']
  | [c] => if isBreak c then ['+'] else ['-']
  | c :: d :: _ => if isBreak c then if isBreak d then ['+'] else [] else ['-']

/-- The lines of a literal block; `broken` says whether a break was the last character. -/
def literalChars (column : Nat) (broken : Bool) : List Char → List Char
  | [] => []
  | c :: rest =>
    if isBreak c then c :: literalChars column true rest
    else (if broken then indentation column else []) ++ c :: literalChars column false rest

/-- A string behind its key or dash, up to and with the line break that ends it. Its further lines
start at a column. -/
def scalarChars (column : Nat) (s : String) : List Char :=
  let cs := s.toList
  match styleOf s with
  | .plain => cs ++ ['\n']
  | .single => '\'' :: singleChars column false cs ++ ['\'', '\n']
  | .double | .folded => '"' :: doubleChars cs ++ ['"', '\n']
  | .literal =>
    '|' :: literalHeader cs ++ '\n' :: literalChars column true cs ++
      (if cs.getLast?.any isBreak then [] else ['\n'])

mutual
/-- A value behind its key, which starts at a column. -/
def Tree.afterKey (column : Nat) : Tree → List Char
  | .scalar s => ' ' :: scalarChars (column + 2) s
  | .seq [] => [' ', '[', ']', '\n']
  | .seq items => '\n' :: Tree.itemChars column items
  | .map [] => [' ', '{', '}', '\n']
  | .map entries => '\n' :: (indentation (column + 2) ++ Tree.entryChars (column + 2) entries)
/-- The items of a sequence that starts at a column. -/
def Tree.itemChars (column : Nat) : List Tree → List Char
  | [] => []
  | item :: rest =>
    indentation column ++ '-' :: ' ' :: Tree.afterDash (column + 2) item
      ++ Tree.itemChars column rest
/-- A value behind the dash of an item, starting at a column. -/
def Tree.afterDash (column : Nat) : Tree → List Char
  | .scalar s => scalarChars column s
  | .seq [] => ['[', ']', '\n']
  | .seq items => (Tree.itemChars column items).drop column
  | .map [] => ['{', '}', '\n']
  | .map entries => Tree.entryChars column entries
/-- The entries of a mapping that starts at a column, the first one without its indentation. -/
def Tree.entryChars (column : Nat) : List (String × Tree) → List Char
  | [] => []
  | [(key, value)] => key.toList ++ ':' :: Tree.afterKey column value
  | (key, value) :: rest =>
    key.toList ++ ':' :: Tree.afterKey column value
      ++ (indentation column ++ Tree.entryChars column rest)
end

/-- The text of a document that holds one value. -/
def Tree.render : Tree → String
  | .scalar s => String.ofList (scalarChars 0 s)
  | .seq [] => "[]\n"
  | .seq items => String.ofList (Tree.itemChars 0 items)
  | .map [] => "\x7b\x7d\n"
  | .map entries => String.ofList (Tree.entryChars 0 entries)

end SemanticLayer.Yaml
