import SemanticLayer.Yaml.Token.Scalar
import SemanticLayer.Text.Utf8
/-!
The tokens of a text. The state of the walk is the columns of the open blocks, how many flow
collections are open, and for each of these whether a key may start here and where one may have
started: that a scalar was a key is known only at the colon behind it, so the token of the key is
put in front of the scalar afterwards.
-/
namespace SemanticLayer.Yaml

/-- A place where a key may have started. -/
structure KeyStart where
  /-- Whether nothing but a key can stand there. -/
  required : Bool
  /-- How many tokens stand before it. -/
  before : Nat
  mark : Mark
  deriving Repr

/-- The state of the walk over a text. -/
structure Scan where
  cursor : Cursor
  /-- How many flow collections are open. -/
  flow : Nat
  /-- The column of the innermost block, `-1` outside all blocks. -/
  column : Int
  /-- The columns of the blocks around it, the innermost first. -/
  outer : List Int
  /-- Whether a key may start here. -/
  keyAllowed : Bool
  /-- The possible key of every level of flow collections, the innermost first. -/
  keys : List (Option KeyStart)
  /-- The tokens so far, the last first. -/
  tokens : List Token
  deriving Repr

namespace Scan

/-- The state at the start of a text. -/
def start (text : List Char) : Scan :=
  { cursor := ⟨text, .origin⟩, flow := 0, column := -1, outer := [], keyAllowed := true,
    keys := [none], tokens := [] }

/-- A fault at the cursor. -/
def fault (s : Scan) (problem : String) : Fault := s.cursor.fault problem

/-- Appends a token that starts at a place and ends at the cursor. -/
def emit (s : Scan) (start : Mark) (lexeme : Lexeme) : Scan :=
  { s with tokens := ⟨lexeme, start, s.cursor.mark⟩ :: s.tokens }

/-- Puts a token without extent behind the first `before` tokens. -/
def insert (s : Scan) (before : Nat) (mark : Mark) (lexeme : Lexeme) : Scan :=
  let (later, earlier) := s.tokens.splitAt (s.tokens.length - before)
  { s with tokens := later ++ ⟨lexeme, mark, mark⟩ :: earlier }

/-- Reads `count` characters as a token. -/
def take (s : Scan) (count : Nat) (lexeme : Lexeme) : Scan :=
  let mark := s.cursor.mark
  { s with cursor := s.cursor.steps count }.emit mark lexeme

/-- Gives up the places for keys that are on an earlier line or more than 1024 characters back. -/
def dropStaleKeys (s : Scan) : Except Fault Scan := do
  let keys ← s.keys.mapM fun key => match key with
    | none => .ok none
    | some k =>
      if k.mark.line < s.cursor.mark.line ∨ k.mark.index + 1024 < s.cursor.mark.index then
        if k.required then .error (s.fault "could not find expected ':'") else .ok none
      else .ok (some k)
  return { s with keys }

/-- Gives up the place for a key on the present level. -/
def dropKey (s : Scan) : Except Fault Scan :=
  match s.keys with
  | some k :: rest =>
    if k.required then .error (s.fault "could not find expected ':'")
    else .ok { s with keys := none :: rest }
  | _ => .ok s

/-- Remembers the cursor as the place of a key, if one may start here. -/
def saveKey (s : Scan) : Except Fault Scan :=
  if s.keyAllowed then do
    let key : KeyStart :=
      { required := s.flow = 0 && s.column = s.cursor.mark.column, before := s.tokens.length,
        mark := s.cursor.mark }
    let s ← s.dropKey
    return { s with keys := some key :: s.keys.tail }
  else .ok s

/-- Opens a block at a column right of the present one, its first token standing behind the first
`before` tokens. -/
def openBlock (s : Scan) (column : Nat) (before : Nat) (mark : Mark) (lexeme : Lexeme) : Scan :=
  if s.flow = 0 ∧ s.column < column then
    { s with column := column, outer := s.column :: s.outer }.insert before mark lexeme
  else s

/-- The tokens that close the blocks of the columns right of `column`. -/
def closeBlocks (s : Scan) (column : Int) : Scan :=
  if s.flow = 0 then
    let rec go (innermost : Int) : List Int → List Token → Int × List Int × List Token
      | [], tokens => (innermost, [], tokens)
      | next :: outer, tokens =>
        if column < innermost then
          go next outer (⟨.blockEnd, s.cursor.mark, s.cursor.mark⟩ :: tokens)
        else (innermost, next :: outer, tokens)
    let (innermost, outer, tokens) := go s.column s.outer s.tokens
    { s with column := innermost, outer, tokens }
  else s

/-- Steps over blanks, comments and line breaks to the next token. A line break outside of flow
collections lets a key start. -/
def toNextToken : List Char → Scan → Scan
  | [], s => s
  | _ :: fuel, s =>
    let tabs := s.flow ≠ 0 || !s.keyAllowed
    let c := s.cursor.skipWhile fun x => x = ' ' || (tabs && x = '\t')
    let c := if c.at? (· = '#') then c.skipWhile (!isBreak ·) else c
    if c.at? isBreak then
      toNextToken fuel
        { s with cursor := c.lineBreak.2, keyAllowed := s.keyAllowed || s.flow = 0 }
    else { s with cursor := c }

/-- Reads a number of a version. -/
def versionNumber (c : Cursor) : Except Fault (Nat × Cursor) :=
  let (digits, next) := Cursor.span Char.isDigit c.rest c.mark
  if digits.length > 9 then .error (c.fault "found extremely long version number")
  else match Plain.digits? 10 digits with
    | some n => .ok (n, next)
    | none => .error (c.fault "did not find expected version number")

/-- The characters of tags besides words; the flow indicators only between angle brackets. -/
def isUriChar (verbatim : Bool) (x : Char) : Bool :=
  isWord x || [';', '/', '?', ':', '@', '&', '=', '+', '$', '.', '!', '~', '*', '\'', '(', ')'].contains x
    || (verbatim && [',', '[', ']'].contains x)

/-- Reads `count` escaped bytes. -/
def escapedBytes (count : Nat) (c : Cursor) : Except Fault (List UInt8 × Cursor) :=
  match count with
  | 0 => .ok ([], c)
  | count + 1 =>
    match c.rest with
    | '%' :: a :: b :: _ =>
      match Plain.digitValue? a, Plain.digitValue? b with
      | some a, some b => do
        let (bytes, c) ← escapedBytes count (c.steps 3)
        return (UInt8.ofNat (a * 16 + b) :: bytes, c)
      | _, _ => .error (c.fault "did not find URI escaped octet")
    | _ => .error (c.fault "did not find URI escaped octet")

/-- Reads a character that is written as escaped bytes. -/
def uriEscape (c : Cursor) : Except Fault (List Char × Cursor) := do
  let (first, _) ← escapedBytes 1 c
  let lead := first.headD 0
  let width ←
    if lead < 0x80 then .ok 1
    else if 0xC0 ≤ lead && lead < 0xE0 then .ok 2
    else if 0xE0 ≤ lead && lead < 0xF0 then .ok 3
    else if 0xF0 ≤ lead && lead < 0xF8 then .ok 4
    else .error (c.fault "found an incorrect leading UTF-8 octet")
  let (bytes, next) ← escapedBytes width c
  match Text.ofBytes? bytes with
  | some text => return (text.toList, next)
  | none => .error (c.fault "found an incorrect trailing UTF-8 octet")

/-- Reads the characters of a tag. -/
def uriChars (verbatim : Bool) : List Char → Cursor → Except Fault (List Char × Cursor)
  | [], c => .ok ([], c)
  | _ :: fuel, c =>
    match c.rest with
    | [] => .ok ([], c)
    | x :: _ =>
      if x = '%' then do
        let (chars, c) ← uriEscape c
        let (more, c) ← uriChars verbatim fuel c
        return (chars ++ more, c)
      else if isUriChar verbatim x then do
        let (more, c) ← uriChars verbatim fuel c.step
        return (x :: more, c)
      else .ok ([], c)

/-- Reads a tag between angle brackets, which has no handle, the cursor being behind the first. -/
def verbatimTag (c : Cursor) : Except Fault (List Char × List Char × Cursor) := do
  let (chars, next) ← uriChars true c.rest c
  if chars.isEmpty then .error (next.fault "did not find expected tag URI")
  else if next.at? (· = '>') then return ([], chars, next.step)
  else .error (next.fault "did not find the expected '>'")

/-- Reads a tag with a handle between exclamation marks, or behind a single one. -/
def shorthandTag (c : Cursor) : Except Fault (List Char × List Char × Cursor) := do
  let (name, behind) := Cursor.span isWord c.step.rest c.step.mark
  if behind.at? (· = '!') then
    let (chars, next) ← uriChars false behind.rest behind.step
    if chars.isEmpty then .error (next.fault "did not find expected tag URI")
    else return ('!' :: name ++ ['!'], chars, next)
  else
    let (chars, next) ← uriChars false behind.rest behind
    let suffix := name ++ chars
    return if suffix.isEmpty then ([], ['!'], next) else (['!'], suffix, next)

/-- Reads a tag, the cursor being at its exclamation mark. -/
def readTag (flow : Bool) (c : Cursor) : Except Fault (String × String × Cursor) := do
  let (handle, suffix, next) ←
    if c.step.at? (· = '<') then verbatimTag (c.steps 2) else shorthandTag c
  if atSpacing next.rest || (flow && next.at? (· = ',')) then
    return (String.ofList handle, String.ofList suffix, next)
  else .error (next.fault "did not find expected whitespace or line break")

/-- Reads the name of an anchor or an alias, the cursor being at its indicator. -/
def readName (c : Cursor) : Except Fault (String × Cursor) :=
  let (name, next) := Cursor.span isWord c.step.rest c.step.mark
  let ends := atSpacing next.rest ||
    next.at? fun x => ['?', ':', ',', ']', '}', '%', '@', '`'].contains x
  if name.isEmpty || !ends then
    .error (next.fault "did not find expected alphabetic or numeric character")
  else .ok (String.ofList name, next)

/-- Reads a directive, the cursor being at the percent sign. -/
def readDirective (s : Scan) : Except Fault Scan := do
  let mark := s.cursor.mark
  let (name, c) := Cursor.span isWord s.cursor.step.rest s.cursor.step.mark
  if name.isEmpty then .error (c.fault "could not find expected directive name")
  else if !atSpacing c.rest then .error (c.fault "found unexpected non-alphabetical character")
  let (lexeme, c) ←
    if name = ['Y', 'A', 'M', 'L'] then do
      let (major, c) ← versionNumber (c.skipWhile isGap)
      if !c.at? (· = '.') then .error (c.fault "did not find expected digit or '.' character")
      let (minor, c) ← versionNumber c.step
      pure (Lexeme.versionDirective major minor, c)
    else if name = ['T', 'A', 'G'] then do
      let c := c.skipWhile isGap
      if !c.at? (· = '!') then .error (c.fault "did not find expected '!'")
      let (word, behind) := Cursor.span isWord c.step.rest c.step.mark
      let closed := behind.at? (· = '!')
      if !closed && !word.isEmpty then .error (behind.fault "did not find expected '!'")
      let handle := '!' :: word ++ (if closed then ['!'] else [])
      let behind := if closed then behind.step else behind
      if !behind.at? isGap then .error (behind.fault "did not find expected whitespace")
      let behind := behind.skipWhile isGap
      let (uri, next) ← uriChars true behind.rest behind
      if uri.isEmpty then .error (next.fault "did not find expected tag URI")
      if !atSpacing next.rest then
        .error (next.fault "did not find expected whitespace or line break")
      pure (Lexeme.tagDirective (String.ofList handle) (String.ofList uri), next)
    else .error (c.fault "found unknown directive name")
  let s := { s with cursor := c }.emit mark lexeme
  let c := c.skipWhile isGap
  let c := if c.at? (· = '#') then c.skipWhile (!isBreak ·) else c
  if !(c.rest.isEmpty || c.at? isBreak) then
    .error (c.fault "did not find expected comment or line break")
  return { s with cursor := c.lineBreak.2 }

/-- Closes all blocks before a directive or a marker between documents. -/
def endDocument (s : Scan) : Except Fault Scan := do
  let s ← (s.closeBlocks (-1)).dropKey
  return { s with keyAllowed := false }

/-- Opens a flow collection. -/
def openFlow (s : Scan) (lexeme : Lexeme) : Except Fault Scan := do
  let s ← s.saveKey
  return { s with keys := none :: s.keys, flow := s.flow + 1, keyAllowed := true }.take 1 lexeme

/-- Closes a flow collection. -/
def closeFlow (s : Scan) (lexeme : Lexeme) : Except Fault Scan := do
  let s ← s.dropKey
  let s := if s.flow = 0 then s else { s with flow := s.flow - 1, keys := s.keys.tail }
  return { s with keyAllowed := false }.take 1 lexeme

/-- Reads the dash of an item. -/
def dash (s : Scan) : Except Fault Scan := do
  if s.flow = 0 ∧ !s.keyAllowed then
    .error (s.fault "block sequence entries are not allowed in this context")
  let s := s.openBlock s.cursor.mark.column s.tokens.length s.cursor.mark .blockSequenceStart
  let s ← s.dropKey
  return { s with keyAllowed := true }.take 1 .blockEntry

/-- Reads the question mark of a key. -/
def question (s : Scan) : Except Fault Scan := do
  if s.flow = 0 ∧ !s.keyAllowed then
    .error (s.fault "mapping keys are not allowed in this context")
  let s := s.openBlock s.cursor.mark.column s.tokens.length s.cursor.mark .blockMappingStart
  let s ← s.dropKey
  return { s with keyAllowed := s.flow = 0 }.take 1 .key

/-- Reads the colon before a value. What stands before it on the line is its key, if one may have
started there. -/
def colon (s : Scan) : Except Fault Scan :=
  match s.keys with
  | some k :: rest =>
    let s := { s with keys := none :: rest, keyAllowed := false }
    let s := s.insert k.before k.mark .key
    .ok ((s.openBlock k.mark.column k.before k.mark .blockMappingStart).take 1 .value)
  | _ =>
    if s.flow = 0 ∧ !s.keyAllowed then
      .error (s.fault "mapping values are not allowed in this context")
    else
      let s := s.openBlock s.cursor.mark.column s.tokens.length s.cursor.mark .blockMappingStart
      .ok ({ s with keyAllowed := s.flow = 0 }.take 1 .value)

/-- Reads a property of a node or a scalar that may be a key. -/
def content (s : Scan) (read : Cursor → Except Fault (Lexeme × Cursor)) : Except Fault Scan := do
  let s ← s.saveKey
  let mark := s.cursor.mark
  let (lexeme, cursor) ← read s.cursor
  return { s with keyAllowed := false, cursor }.emit mark lexeme

/-- Reads a plain scalar; if it ends on a later line, a key may start behind it. -/
def plain (s : Scan) : Except Fault Scan := do
  let s ← s.saveKey
  let mark := s.cursor.mark
  let (text, broken, cursor) ← readPlain (s.flow ≠ 0) (s.column + 1).toNat s.cursor
  return { s with keyAllowed := broken, cursor }.emit mark (.scalar (String.ofList text) .plain)

/-- Reads a block scalar. -/
def block (s : Scan) (literal : Bool) : Except Fault Scan := do
  let s ← s.dropKey
  let mark := s.cursor.mark
  let (text, cursor) ← readBlock literal s.column s.cursor
  let style := if literal then Style.literal else Style.folded
  return { s with keyAllowed := true, cursor }.emit mark (.scalar (String.ofList text) style)

/-- Reads a scalar in quotes. -/
def quoted (s : Scan) (single : Bool) : Except Fault Scan :=
  s.content fun c => do
    let (text, c) ← readQuoted single c
    return (.scalar (String.ofList text) (if single then .single else .double), c)

/-- Characters that no plain scalar starts with. -/
def isIndicator (x : Char) : Bool :=
  ['-', '?', ':', ',', '[', ']', '{', '}', '#', '&', '*', '!', '|', '>', '\'', '"', '%', '@', '`'].contains x

/-- Ends the text: all blocks are closed, and no key may be left without its colon. -/
def finish (s : Scan) : Except Fault Scan := do
  let mark := s.cursor.mark
  let mark := if mark.column = 0 then mark else { mark with line := mark.line + 1, column := 0 }
  let s := { s with cursor := ⟨[], mark⟩ }
  let s ← (s.closeBlocks (-1)).dropKey
  return s.emit mark .streamEnd

/-- Reads one token, the cursor being at its first character `x`, which `rest` follows. -/
def next (s : Scan) (x : Char) (rest : List Char) : Except Fault Scan :=
  let lineStart := s.cursor.mark.column = 0
  let spaced := atSpacing rest
  if lineStart && x = '%' then do readDirective (← s.endDocument)
  else if lineStart && x = '-' && atDocumentMarker (x :: rest) then do
    return (← s.endDocument).take 3 .documentStart
  else if lineStart && x = '.' && atDocumentMarker (x :: rest) then do
    return (← s.endDocument).take 3 .documentEnd
  else if x = '[' then s.openFlow .flowSequenceStart
  else if x = '{' then s.openFlow .flowMappingStart
  else if x = ']' then s.closeFlow .flowSequenceEnd
  else if x = '}' then s.closeFlow .flowMappingEnd
  else if x = ',' then do
    let s ← s.dropKey
    return { s with keyAllowed := true }.take 1 .flowEntry
  else if x = '-' && spaced then s.dash
  else if x = '?' && (s.flow ≠ 0 || spaced) then s.question
  else if x = ':' && (s.flow ≠ 0 || spaced) then s.colon
  else if x = '*' then s.content fun c => do
    let (name, c) ← readName c
    return (.alias name, c)
  else if x = '&' then s.content fun c => do
    let (name, c) ← readName c
    return (.anchor name, c)
  else if x = '!' then s.content fun c => do
    let (handle, suffix, c) ← readTag (s.flow ≠ 0) c
    return (.tag handle suffix, c)
  else if x = '|' && s.flow = 0 then s.block true
  else if x = '>' && s.flow = 0 then s.block false
  else if x = '\'' then s.quoted true
  else if x = '"' then s.quoted false
  else if !(isSpacing x || isIndicator x) || (x = '-' && !rest.head?.any isGap)
      || (s.flow = 0 && (x = '?' || x = ':') && !spaced) then s.plain
  else .error (s.fault "found character that cannot start any token")

/-- Reads all tokens. Every round takes at least one character. -/
def run : Nat → Scan → Except Fault (List Token)
  | 0, s => .error (s.fault "found character that cannot start any token")
  | fuel + 1, s => do
    let s := toNextToken s.cursor.rest s
    let s ← s.dropStaleKeys
    let s := s.closeBlocks s.cursor.mark.column
    match s.cursor.rest with
    | [] => return (← s.finish).tokens.reverse
    | x :: rest => run fuel (← s.next x rest)

end Scan

/-- The tokens of a text. A mark for the byte order at its start is no part of it. -/
def tokens (text : String) : Except Fault (List Token) :=
  let chars := match text.toList with
    | c :: rest => if c.toNat = 0xFEFF then rest else c :: rest
    | [] => []
  if chars.all isAllowed then Scan.run (chars.length + 1) (Scan.start chars)
  else .error ⟨"control characters are not allowed", .origin⟩

end SemanticLayer.Yaml
