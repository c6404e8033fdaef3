import SemanticLayer.Yaml.Token.Basic
/-!
Scalars: plain, in quotes, and in blocks. A line break inside a scalar is folded: a single break
becomes a space, and of several breaks the first disappears. Literal blocks keep their breaks.
-/
namespace SemanticLayer.Yaml

/-- The white space between two words of a scalar that may span lines: either spaces and tabs on
one line, or a first break and the breaks that follow it. -/
inductive Gap where
  | spaces (chars : List Char)
  | breaks (first : List Char) (others : List Char)
  deriving Repr

/-- What a gap stands for between two words. -/
def Gap.folded : Gap → List Char
  | .spaces chars => chars
  | .breaks first others =>
    if first.head? = some '\n' then if others.isEmpty then [' '] else others
    else first ++ others

/-- Whether a gap spans lines. -/
def Gap.isBroken : Gap → Bool
  | .spaces _ => false
  | .breaks _ _ => true

/-- Reads a gap. In a plain scalar of a block a tab may not stand left of the column `indent`. Here and
below every round takes at least one character and one element of `fuel`, so the characters at the
cursor are fuel enough. -/
def readGap (indent : Option Nat) : List Char → Gap → Cursor → Except Fault (Gap × Cursor)
  | [], gap, c => .ok (gap, c)
  | _ :: fuel, gap, c =>
    match c.rest with
    | [] => .ok (gap, c)
    | x :: _ =>
      if isGap x then
        match gap with
        | .spaces chars => readGap indent fuel (.spaces (chars ++ [x])) c.step
        | .breaks first others =>
          if x = '\t' && indent.any fun column => c.mark.column < column then
            .error (c.fault "found a tab character that violates indentation")
          else readGap indent fuel (.breaks first others) c.step
      else if isBreak x then
        let (chars, c) := c.lineBreak
        match gap with
        | .spaces _ => readGap indent fuel (.breaks chars []) c
        | .breaks first others => readGap indent fuel (.breaks first (others ++ chars)) c
      else .ok (gap, c)

/-- The brackets, braces and commas that end a plain scalar in a flow collection. -/
def isFlowIndicator (c : Char) : Bool := [',', '[', ']', '{', '}'].contains c

/-- Reads a word of a plain scalar. -/
def plainWord (flow : Bool) (rest : List Char) (mark : Mark) :
    Except Fault (List Char × Cursor) :=
  match rest with
  | [] => .ok ([], ⟨[], mark⟩)
  | x :: tail =>
    if isSpacing x then .ok ([], ⟨x :: tail, mark⟩)
    else if flow && x = ':' && (tail.head?.any fun y => y = '?' || isFlowIndicator y) then
      .error ⟨"found unexpected ':'", mark⟩
    else if (x = ':' && atSpacing tail) || (flow && isFlowIndicator x) then
      .ok ([], ⟨x :: tail, mark⟩)
    else
      match plainWord flow tail mark.next with
      | .error f => .error f
      | .ok (xs, c) => .ok (x :: xs, c)

/-- Reads the words of a plain scalar that follow the gap `gap`. The answer says whether the last
gap spans lines. -/
def plainWords (flow : Bool) (indent : Nat) :
    List Char → Gap → Cursor → Except Fault (List Char × Bool × Cursor)
  | [], gap, c => .ok ([], gap.isBroken, c)
  | _ :: fuel, gap, c => do
    if (c.mark.column = 0 && atDocumentMarker c.rest) || c.at? (· = '#') then
      return ([], gap.isBroken, c)
    let (word, next) ← plainWord flow c.rest c.mark
    if word.isEmpty then return ([], gap.isBroken, c)
    let text := gap.folded ++ word
    if !next.at? isSpacing then return (text, false, next)
    let (gap, next) ← readGap (some indent) next.rest (.spaces []) next
    if !flow && next.mark.column < indent then return (text, gap.isBroken, next)
    let (more, broken, last) ← plainWords flow indent fuel gap next
    return (text ++ more, broken, last)

/-- Reads a plain scalar whose lines start at the column `indent` or right of it. -/
def readPlain (flow : Bool) (indent : Nat) (c : Cursor) :
    Except Fault (List Char × Bool × Cursor) :=
  plainWords flow indent c.rest (.spaces []) c

/-- Reads the hexadecimal digits of an escape. -/
def hexEscape (c : Cursor) : Nat → Nat → List Char → Except Fault Nat
  | 0, value, _ => .ok value
  | count + 1, value, x :: rest =>
    match Plain.digitValue? x with
    | some d => hexEscape c count (value * 16 + d) rest
    | none => .error (c.fault "did not find expected hexdecimal number")
  | _ + 1, _, [] => .error (c.fault "did not find expected hexdecimal number")

/-- What an escape of one character stands for. -/
def simpleEscape? (x : Char) : Option Char :=
  match x with
  | '0' => some '\x00'
  | 'a' => some '\x07'
  | 'b' => some '\x08'
  | 't' => some '\t'
  | '\t' => some '\t'
  | 'n' => some '\n'
  | 'v' => some '\x0b'
  | 'f' => some '\x0c'
  | 'r' => some '\r'
  | 'e' => some '\x1b'
  | ' ' => some ' '
  | '"' => some '"'
  | '/' => some '/'
  | '\\' => some '\\'
  | 'N' => some (Char.ofNat 0x85)
  | '_' => some (Char.ofNat 0xA0)
  | 'L' => some (Char.ofNat 0x2028)
  | 'P' => some (Char.ofNat 0x2029)
  | _ => none

/-- How many hexadecimal digits an escape takes. -/
def hexWidth? (x : Char) : Option Nat :=
  match x with
  | 'x' => some 2
  | 'u' => some 4
  | 'U' => some 8
  | _ => none

/-- Reads an escape in double quotes, the cursor being at the backslash. -/
def readEscape (c : Cursor) : Except Fault (Char × Cursor) :=
  match c.rest with
  | _ :: x :: rest =>
    match simpleEscape? x, hexWidth? x with
    | some y, _ => .ok (y, c.steps 2)
    | none, some width =>
      match hexEscape c width 0 rest with
      | .error f => .error f
      | .ok n =>
        if (0xD800 ≤ n ∧ n ≤ 0xDFFF) ∨ 0x10FFFF < n then
          .error (c.fault "found invalid Unicode character escape code")
        else .ok (Char.ofNat n, c.steps (2 + width))
    | none, none => .error (c.fault "found unknown escape character")
  | _ => .error (c.fault "found unknown escape character")

/-- Reads the characters of a scalar in quotes up to white space or the closing quote. The flag says
whether an escaped line break ended them. -/
def quotedWord (single : Bool) : List Char → Cursor → Except Fault (List Char × Bool × Cursor)
  | [], c => .ok ([], false, c)
  | _ :: fuel, c =>
    match c.rest with
    | [] => .ok ([], false, c)
    | x :: rest =>
      if isSpacing x then .ok ([], false, c)
      else if single && x = '\'' && rest.head? = some '\'' then do
        let (xs, broken, c) ← quotedWord single fuel (c.steps 2)
        return ('\'' :: xs, broken, c)
      else if x = (if single then '\'' else '"') then .ok ([], false, c)
      else if !single && x = '\\' then
        if rest.head?.any isBreak then .ok ([], true, c.step.lineBreak.2)
        else do
          let (y, c) ← readEscape c
          let (xs, broken, c) ← quotedWord single fuel c
          return (y :: xs, broken, c)
      else do
        let (xs, broken, c) ← quotedWord single fuel c.step
        return (x :: xs, broken, c)

/-- Reads a scalar in quotes, the cursor being behind the opening quote. -/
def quotedWords (single : Bool) : List Char → Cursor → Except Fault (List Char × Cursor)
  | [], c => .error (c.fault "found unexpected end of stream")
  | _ :: fuel, c => do
    if c.mark.column = 0 && atDocumentMarker c.rest then
      .error (c.fault "found unexpected document indicator")
    else if c.rest.isEmpty then .error (c.fault "found unexpected end of stream")
    let (word, broken, c) ← quotedWord single c.rest c
    if !broken && c.at? (· = (if single then '\'' else '"')) then return (word, c.step)
    let (gap, c) ← readGap none c.rest (if broken then .breaks [] [] else .spaces []) c
    let (more, c) ← quotedWords single fuel c
    return (word ++ gap.folded ++ more, c)

/-- Reads a scalar in quotes, the cursor being at the opening quote. -/
def readQuoted (single : Bool) (c : Cursor) : Except Fault (List Char × Cursor) :=
  quotedWords single c.rest c.step

/-- What happens to the breaks at the end of a block: all are dropped, one is kept, or all are. -/
inductive Chomping where
  | strip
  | clip
  | keep
  deriving DecidableEq, Repr

/-- Reads the indentation of the next lines of a block and the breaks of its empty lines. Without a
known column, the answer's last part is the rightmost column that an empty line reaches. -/
def blockBreaks (column : Option Nat) :
    List Char → Nat → Cursor → Except Fault (List Char × Nat × Cursor)
  | [], reach, c => .ok ([], reach, c)
  | _ :: fuel, reach, c =>
    let c := indent column c.rest c.mark
    let reach := max reach c.mark.column
    if c.at? (· = '\t') && (column.all fun n => c.mark.column < n) then
      .error (c.fault "found a tab character where an indentation space is expected")
    else if c.at? isBreak then do
      let (chars, c) := c.lineBreak
      let (more, reach, c) ← blockBreaks column fuel reach c
      return (chars ++ more, reach, c)
    else .ok ([], reach, c)
where
  /-- Steps over spaces left of the column. -/
  indent (column : Option Nat) (rest : List Char) (mark : Mark) : Cursor :=
    match rest with
    | [] => ⟨[], mark⟩
    | x :: tail =>
      if x = ' ' && (column.all fun n => mark.column < n) then indent column tail mark.next
      else ⟨x :: tail, mark⟩

/-- Reads the lines of a block at a column. `lead` is the break behind the line before, `others` the
breaks of the empty lines that follow it, and `spaced` says whether that line starts with a space
or a tab. -/
def blockLines (literal : Bool) (chomping : Chomping) (column : Nat) :
    List Char → List Char → List Char → Bool → Cursor → Except Fault (List Char × Cursor)
  | [], _, _, _, c => .ok ([], c)
  | _ :: fuel, lead, others, spaced, c =>
    if c.mark.column = column && !c.rest.isEmpty then do
      let spacedNow := c.at? isGap
      let folds := !literal && lead.head? = some '\n' && !spaced && !spacedNow
      let joint :=
        if folds then (if others.isEmpty then [' '] else others) else lead ++ others
      let (line, c) := Cursor.span (!isBreak ·) c.rest c.mark
      let (lead, c) := c.lineBreak
      let (others, _, c) ← blockBreaks (some column) c.rest 0 c
      let (more, c) ← blockLines literal chomping column fuel lead others spacedNow c
      return (joint ++ line ++ more, c)
    else
      let tail := match chomping with
        | .strip => []
        | .clip => lead
        | .keep => lead ++ others
      .ok (tail, c)

/-- Reads the marks behind the indicator of a block: chomping and an indentation, in either order. -/
def blockHeader (c : Cursor) : Except Fault (Chomping × Option Nat × Cursor) :=
  let chomping? (c : Cursor) : Option Chomping × Cursor := match c.rest with
    | '+' :: _ => (some .keep, c.step)
    | '-' :: _ => (some .strip, c.step)
    | _ => (none, c)
  let increment? (c : Cursor) : Except Fault (Option Nat × Cursor) := match c.rest with
    | x :: _ =>
      if x = '0' then .error (c.fault "found an indentation indicator equal to 0")
      else if x.isDigit then .ok (some (x.toNat - 48), c.step)
      else .ok (none, c)
    | [] => .ok (none, c)
  match chomping? c with
  | (some chomping, c) => (increment? c).map fun (n, c) => (chomping, n, c)
  | (none, c) =>
    match increment? c with
    | .error f => .error f
    | .ok (some n, c) =>
      let (chomping, c) := chomping? c
      .ok (chomping.getD .clip, some n, c)
    | .ok (none, c) => .ok (.clip, none, c)

/-- Reads a block scalar, the cursor being at its indicator; `parent` is the column of the block
that it belongs to, or `-1`. -/
def readBlock (literal : Bool) (parent : Int) (c : Cursor) :
    Except Fault (List Char × Cursor) := do
  let (chomping, increment, c) ← blockHeader c.step
  let c := c.skipWhile isGap
  let c := if c.at? (· = '#') then c.skipWhile (!isBreak ·) else c
  if !(c.rest.isEmpty || c.at? isBreak) then
    .error (c.fault "did not find expected comment or line break")
  let fuel := c.rest
  let (_, c) := c.lineBreak
  match increment with
  | some n =>
    let column := if 0 ≤ parent then parent.toNat + n else n
    let (others, _, c) ← blockBreaks (some column) fuel 0 c
    blockLines literal chomping column fuel [] others false c
  | none =>
    let (others, reach, c) ← blockBreaks none fuel 0 c
    let column := max reach (max (parent + 1).toNat 1)
    blockLines literal chomping column fuel [] others false c

end SemanticLayer.Yaml
