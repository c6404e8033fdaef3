import SemanticLayer.Toml.Scalar
import SemanticLayer.Toml.Table
/-!
Reading TOML documents. A document is a list of lines, each of which is empty, a header or a key with
its value; values may go over several lines. The result is the value of the whole table, or nothing
if the document is malformed.
-/
namespace SemanticLayer.Toml

/-- Characters of a key without quotes. -/
def isKeyChar (c : Char) : Bool := c.isAlphanum || c = '_' || c = '-'

/-- Reads one part of a key. -/
def keyPart? (cs : List Char) : Option (String × List Char) :=
  match cs with
  | '"' :: rest => (basicChars cs.length rest).map fun (k, rest) => (String.ofList k, rest)
  | '\'' :: rest => (literalChars rest).map fun (k, rest) => (String.ofList k, rest)
  | cs =>
    let key := cs.takeWhile isKeyChar
    if key.isEmpty then none else some (String.ofList key, cs.dropWhile isKeyChar)

/-- Reads a key with points and the blanks around it. A part takes at least one character, so the
length of the text is enough fuel. -/
def keyPath? : Nat → List Char → Option (List String × List Char)
  | 0, _ => none
  | fuel + 1, cs => do
    let (part, rest) ← keyPart? (skipSpace cs)
    match skipSpace rest with
    | '.' :: rest =>
      let (parts, rest) ← keyPath? fuel rest
      return (part :: parts, rest)
    | rest => return ([part], rest)

/-- Steps over a comment, if there is one, up to the line break. -/
def skipComment (cs : List Char) : Option (List Char) :=
  match cs with
  | '#' :: rest => some (rest.dropWhile isTextual)
  | cs => some cs

/-- Steps over blanks, line breaks and comments. -/
def skipFill : Nat → List Char → Option (List Char)
  | 0, cs => some cs
  | fuel + 1, cs =>
    let cs := skipSpace cs
    match lineBreak? cs with
    | some rest => skipFill fuel rest
    | none =>
      match cs with
      | '#' :: rest => (lineBreak? (rest.dropWhile isTextual)).bind (skipFill fuel)
      | cs => some cs

/-- Stores a value under a key of an inline table. -/
def storeInline (key : List String) (value : Json) (entries : Entries) : Option Entries :=
  storeDotted value (key.getLast?.getD "") key.dropLast entries

mutual
/-- Reads a value. -/
def value? : Nat → List Char → Option (Json × List Char)
  | 0, _ => none
  | fuel + 1, cs =>
    match cs with
    | '[' :: rest => (items? fuel rest).map fun (items, rest) => (.arr items, rest)
    | '{' :: rest =>
      match skipSpace rest with
      | '}' :: rest => some (.obj [], rest)
      | rest => (entries? fuel [] rest).map fun (entries, rest) =>
        (Json.object (membersOf entries), rest)
    | cs => scalar? cs
/-- Reads the items of an array and its closing bracket. -/
def items? : Nat → List Char → Option (List Json × List Char)
  | 0, _ => none
  | fuel + 1, cs => do
    let cs ← skipFill cs.length cs
    match cs with
    | ']' :: rest => return ([], rest)
    | cs =>
      let (v, rest) ← value? fuel cs
      match ← skipFill rest.length rest with
      | ',' :: rest =>
        let (vs, rest) ← items? fuel rest
        return (v :: vs, rest)
      | ']' :: rest => return ([v], rest)
      | _ => none
/-- Reads the entries of an inline table and its closing bracket. -/
def entries? : Nat → Entries → List Char → Option (Entries × List Char)
  | 0, _, _ => none
  | fuel + 1, done, cs => do
    let (key, rest) ← keyPath? cs.length cs
    let rest ← expect? '=' rest
    let (v, rest) ← value? fuel (skipSpace rest)
    let done ← storeInline key v done
    match skipSpace rest with
    | ',' :: rest => entries? fuel done rest
    | '}' :: rest => return (done, rest)
    | _ => none
end

/-- The table of a document so far, and the header that holds the next keys. -/
structure Progress where
  root : Entries
  header : List String

/-- Steps over the end of a line. -/
def endOfLine? (cs : List Char) : Option (List Char) := do
  let rest ← skipComment (skipSpace cs)
  match rest with
  | [] => return []
  | rest => lineBreak? rest

/-- Reads the header of one table. -/
def header? (p : Progress) (cs : List Char) : Option (Progress × List Char) := do
  let (key, rest) ← keyPath? cs.length cs
  let rest ← expect? ']' rest
  let root ← atPath (declare (key.getLast?.getD "")) key.dropLast p.root
  return (⟨root, key⟩, rest)

/-- Reads a header that tables share. -/
def sharedHeader? (p : Progress) (cs : List Char) : Option (Progress × List Char) := do
  let (key, rest) ← keyPath? cs.length cs
  let rest ← expect? ']' (← expect? ']' rest)
  let root ← atPath (append (key.getLast?.getD "")) key.dropLast p.root
  return (⟨root, key⟩, rest)

/-- Reads a key with its value. -/
def keyValue? (p : Progress) (cs : List Char) : Option (Progress × List Char) := do
  let (key, rest) ← keyPath? cs.length cs
  let rest ← expect? '=' rest
  let (v, rest) ← value? (2 * rest.length + 2) (skipSpace rest)
  let root ← atPath (storeInline key v) p.header p.root
  return (⟨root, p.header⟩, rest)

/-- Reads what stands on a line, if anything. -/
def line? (p : Progress) (cs : List Char) : Option (Progress × List Char) :=
  match skipSpace cs with
  | [] => some (p, [])
  | '#' :: rest => some (p, '#' :: rest)
  | '\n' :: rest => some (p, '\n' :: rest)
  | '\r' :: rest => some (p, '\r' :: rest)
  | '[' :: '[' :: rest => sharedHeader? p rest
  | '[' :: rest => header? p rest
  | cs => keyValue? p cs

/-- Reads lines. Each one takes at least one character, so the length of the text is enough fuel. -/
def lines? : Nat → Progress → List Char → Option Entries
  | _, p, [] => some p.root
  | 0, _, _ :: _ => none
  | fuel + 1, p, cs => do
    let (p, rest) ← line? p cs
    lines? fuel p (← endOfLine? rest)

/-- The value of a document, or nothing if it is malformed. A byte order mark may stand first. -/
def read? (text : String) : Option Json :=
  let cs := match text.toList with
    | c :: rest => if c.toNat = 0xFEFF then rest else c :: rest
    | [] => []
  (lines? (cs.length + 1) ⟨[], []⟩ cs).map fun entries => Json.object (membersOf entries)

end SemanticLayer.Toml
