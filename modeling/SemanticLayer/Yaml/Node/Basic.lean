import SemanticLayer.Yaml.Token.Scan
/-!
The tree of a YAML document, read off its tokens. Tags are written out in full, an alias stands for
the node whose anchor it names, and what is left out is an empty plain scalar.
-/
namespace SemanticLayer.Yaml

/-- A node and the place where it starts. -/
inductive Node where
  | scalar (mark : Mark) (tag : Option String) (style : Style) (text : String)
  | seq (mark : Mark) (tag : Option String) (items : List Node)
  | map (mark : Mark) (tag : Option String) (entries : List (Node × Node))
  /-- An alias of a node that stands before it. -/
  | alias (target : Node)
  /-- An alias of a node that it stands in. -/
  | loop (mark : Mark)
  deriving Repr, Inhabited

/-- Whether a tag is one of an application's own, which no value without a schema can have. -/
def Node.isOwnTag (tag : String) : Bool := tag.toList.head? = some '!'

/-- A named node; it has no value while its own content is read. -/
structure Anchor where
  name : String
  node : Option Node

/-- The tokens not yet read, the anchors so far, the latest first, and the handles of tags. -/
structure Reading where
  tokens : List Token
  anchors : List Anchor
  handles : List (String × String)

/-- The handles that every document knows. -/
def standardHandles : List (String × String) :=
  [("!", "!"), ("!!", "tag:yaml.org,2002:")]

namespace Reading

/-- The next token; the last one ends the text. -/
def peek (r : Reading) : Token :=
  r.tokens.headD ⟨.streamEnd, .origin, .origin⟩

/-- Steps over a token. -/
def skip (r : Reading) : Reading := { r with tokens := r.tokens.tail }

/-- A fault at the next token. -/
def fault (r : Reading) (problem : String) : Fault := ⟨problem, r.peek.start⟩

/-- Gives the anchor that was registered as the `count`-th one its node. -/
def setAnchor (r : Reading) (count : Nat) (node : Node) : Reading :=
  let position := r.anchors.length - count
  { r with anchors := r.anchors.modify position fun a => { a with node := some node } }

/-- The full name of a tag. -/
def resolveTag (r : Reading) (handle suffix : String) : Except Fault String :=
  if handle.isEmpty then .ok suffix
  else match r.handles.lookup handle with
    | some uri => .ok (uri ++ suffix)
    | none => .error (r.fault "found undefined tag handle")

/-- Reads the anchor and the tag of a node, in either order. -/
def properties (r : Reading) : Except Fault (Option String × Option String × Reading) :=
  let anchor? (r : Reading) : Option String × Reading := match r.peek.lexeme with
    | .anchor name => (some name, r.skip)
    | _ => (none, r)
  let tag? (r : Reading) : Except Fault (Option String × Reading) := match r.peek.lexeme with
    | .tag handle suffix => (r.resolveTag handle suffix).map fun tag => (some tag, r.skip)
    | _ => .ok (none, r)
  match anchor? r with
  | (some name, r) => (tag? r).map fun (tag, r) => (some name, tag, r)
  | (none, r) =>
    match tag? r with
    | .error f => .error f
    | .ok (tag, r) =>
      let (name, r) := if tag.isSome then anchor? r else (none, r)
      .ok (name, tag, r)

/-- An empty plain scalar. -/
def empty (mark : Mark) : Node := .scalar mark none .plain ""

/-- The tag of a scalar that is written; the single exclamation mark is none. -/
def scalarTag (tag : Option String) : Option String :=
  if tag = some "!" then none else tag

/-- What ends an item or an entry of a block without content. -/
def endsEntry : Lexeme → Bool
  | .blockEntry => true
  | .key => true
  | .value => true
  | .blockEnd => true
  | _ => false

mutual
/-- Reads a node. In a block, collections of blocks may follow; `indentless` lets the items of a
sequence stand at the column of its key. -/
def node : Nat → Bool → Bool → Reading → Except Fault (Node × Reading)
  | 0, _, _, r => .error (r.fault "did not find expected node content")
  | fuel + 1, block, indentless, r =>
    match r.peek.lexeme with
    | .alias name =>
      match r.anchors.find? (·.name = name) with
      | some ⟨_, some target⟩ => .ok (.alias target, r.skip)
      | some ⟨_, none⟩ => .ok (.loop r.peek.start, r.skip)
      | none => .error (r.fault "unknown anchor")
    | _ => do
      let mark := r.peek.start
      let (anchor, tag, r) ← r.properties
      let r := match anchor with
        | some name => { r with anchors := ⟨name, none⟩ :: r.anchors }
        | none => r
      let count := r.anchors.length
      let (result, r) ← content fuel block indentless mark tag (anchor.isSome || tag.isSome) r
      return (result, if anchor.isSome then r.setAnchor count result else r)
/-- Reads what follows the anchor and the tag of a node. -/
def content : Nat → Bool → Bool → Mark → Option String → Bool → Reading →
    Except Fault (Node × Reading)
  | 0, _, _, _, _, _, r => .error (r.fault "did not find expected node content")
  | fuel + 1, block, indentless, mark, tag, named, r =>
    match r.peek.lexeme with
    | .blockEntry =>
      if indentless then do
        let (items, r) ← indentlessItems fuel r
        return (.seq mark tag items, r)
      else if named then .ok (.scalar mark tag .plain "", r)
      else .error (r.fault "did not find expected node content")
    | .scalar text style => .ok (.scalar mark (scalarTag tag) style text, r.skip)
    | .flowSequenceStart => do
      let (items, r) ← flowItems fuel true r.skip
      return (.seq mark tag items, r)
    | .flowMappingStart => do
      let (entries, r) ← flowEntries fuel true r.skip
      return (.map mark tag entries, r)
    | .blockSequenceStart =>
      if block then do
        let (items, r) ← blockItems fuel r.skip
        return (.seq mark tag items, r)
      else if named then .ok (.scalar mark tag .plain "", r)
      else .error (r.fault "did not find expected node content")
    | .blockMappingStart =>
      if block then do
        let (entries, r) ← blockEntries fuel r.skip
        return (.map mark tag entries, r)
      else if named then .ok (.scalar mark tag .plain "", r)
      else .error (r.fault "did not find expected node content")
    | _ =>
      if named then .ok (.scalar mark tag .plain "", r)
      else .error (r.fault "did not find expected node content")
/-- Reads the items of a sequence that has a block of its own, and its end. -/
def blockItems : Nat → Reading → Except Fault (List Node × Reading)
  | 0, r => .error (r.fault "did not find expected '-' indicator")
  | fuel + 1, r =>
    match r.peek.lexeme with
    | .blockEntry => do
      let mark := r.peek.stop
      let r := r.skip
      let (item, r) ← match r.peek.lexeme with
        | .blockEntry => .ok (empty mark, r)
        | .blockEnd => .ok (empty mark, r)
        | _ => node fuel true false r
      let (items, r) ← blockItems fuel r
      return (item :: items, r)
    | .blockEnd => .ok ([], r.skip)
    | _ => .error (r.fault "did not find expected '-' indicator")
/-- Reads the items of a sequence at the column of its key. -/
def indentlessItems : Nat → Reading → Except Fault (List Node × Reading)
  | 0, r => .error (r.fault "did not find expected '-' indicator")
  | fuel + 1, r =>
    match r.peek.lexeme with
    | .blockEntry => do
      let mark := r.peek.stop
      let r := r.skip
      let (item, r) ←
        if endsEntry r.peek.lexeme then .ok (empty mark, r) else node fuel true false r
      let (items, r) ← indentlessItems fuel r
      return (item :: items, r)
    | _ => .ok ([], r)
/-- Reads the entries of a mapping that has a block of its own, and its end. -/
def blockEntries : Nat → Reading → Except Fault (List (Node × Node) × Reading)
  | 0, r => .error (r.fault "did not find expected key")
  | fuel + 1, r =>
    match r.peek.lexeme with
    | .key => do
      let mark := r.peek.stop
      let r := r.skip
      let (key, r) ← match r.peek.lexeme with
        | .key => .ok (empty mark, r)
        | .value => .ok (empty mark, r)
        | .blockEnd => .ok (empty mark, r)
        | _ => node fuel true true r
      let (value, r) ← match r.peek.lexeme with
        | .value =>
          let mark := r.peek.stop
          let r := r.skip
          match r.peek.lexeme with
          | .key => .ok (empty mark, r)
          | .value => .ok (empty mark, r)
          | .blockEnd => .ok (empty mark, r)
          | _ => node fuel true true r
        | _ => .ok (empty r.peek.start, r)
      let (entries, r) ← blockEntries fuel r
      return ((key, value) :: entries, r)
    | .blockEnd => .ok ([], r.skip)
    | _ => .error (r.fault "did not find expected key")
/-- Reads the items of a sequence in brackets, and its closing bracket. An item may be a mapping of
one entry without braces. -/
def flowItems : Nat → Bool → Reading → Except Fault (List Node × Reading)
  | 0, _, r => .error (r.fault "did not find expected ',' or ']'")
  | fuel + 1, first, r =>
    match r.peek.lexeme with
    | .flowSequenceEnd => .ok ([], r.skip)
    | lexeme => do
      let r ←
        if first then .ok r
        else match lexeme with
          | .flowEntry => .ok r.skip
          | _ => .error (r.fault "did not find expected ',' or ']'")
      match r.peek.lexeme with
      | .flowSequenceEnd => .ok ([], r.skip)
      | .key => do
        let mark := r.peek.start
        let (entry, r) ← flowPair fuel r.skip
        let (items, r) ← flowItems fuel false r
        return (.map mark none [entry] :: items, r)
      | _ => do
        let (item, r) ← node fuel false false r
        let (items, r) ← flowItems fuel false r
        return (item :: items, r)
/-- Reads an entry that is an item of a sequence in brackets, behind its key token. -/
def flowPair : Nat → Reading → Except Fault ((Node × Node) × Reading)
  | 0, r => .error (r.fault "did not find expected ',' or ']'")
  | fuel + 1, r => do
    let (key, r) ← match r.peek.lexeme with
      | .value => .ok (empty r.peek.stop, r.skip)
      | .flowEntry => .ok (empty r.peek.stop, r.skip)
      | .flowSequenceEnd => .ok (empty r.peek.stop, r.skip)
      | _ => node fuel false false r
    let (value, r) ← match r.peek.lexeme with
      | .value =>
        let r := r.skip
        match r.peek.lexeme with
        | .flowEntry => .ok (empty r.peek.start, r)
        | .flowSequenceEnd => .ok (empty r.peek.start, r)
        | _ => node fuel false false r
      | _ => .ok (empty r.peek.start, r)
    return ((key, value), r)
/-- Reads the entries of a mapping in braces, and its closing brace. -/
def flowEntries : Nat → Bool → Reading → Except Fault (List (Node × Node) × Reading)
  | 0, _, r => .error (r.fault "did not find expected ',' or '\x7d'")
  | fuel + 1, first, r =>
    match r.peek.lexeme with
    | .flowMappingEnd => .ok ([], r.skip)
    | lexeme => do
      let r ←
        if first then .ok r
        else match lexeme with
          | .flowEntry => .ok r.skip
          | _ => .error (r.fault "did not find expected ',' or '\x7d'")
      match r.peek.lexeme with
      | .flowMappingEnd => .ok ([], r.skip)
      | .key => do
        let r := r.skip
        let (key, r) ← match r.peek.lexeme with
          | .value => .ok (empty r.peek.start, r)
          | .flowEntry => .ok (empty r.peek.start, r)
          | .flowMappingEnd => .ok (empty r.peek.start, r)
          | _ => node fuel false false r
        let (value, r) ← match r.peek.lexeme with
          | .value =>
            let r := r.skip
            match r.peek.lexeme with
            | .flowEntry => .ok (empty r.peek.start, r)
            | .flowMappingEnd => .ok (empty r.peek.start, r)
            | _ => node fuel false false r
          | _ => .ok (empty r.peek.start, r)
        let (entries, r) ← flowEntries fuel false r
        return ((key, value) :: entries, r)
      | _ => do
        let (key, r) ← node fuel false false r
        let (entries, r) ← flowEntries fuel false r
        return ((key, empty r.peek.start) :: entries, r)
end

/-- Reads the directives before a document. -/
def directives : Nat → Bool → Reading → Except Fault Reading
  | 0, _, r => .ok r
  | fuel + 1, versioned, r =>
    match r.peek.lexeme with
    | .versionDirective major minor =>
      if versioned then .error (r.fault "found duplicate %YAML directive")
      else if major ≠ 1 ∨ (minor ≠ 1 ∧ minor ≠ 2) then
        .error (r.fault "found incompatible YAML document")
      else directives fuel true r.skip
    | .tagDirective handle uri =>
      if r.handles.any (·.1 = handle) then .error (r.fault "found duplicate %TAG directive")
      else directives fuel versioned { r.skip with handles := (handle, uri) :: r.handles }
    | _ => .ok r

/-- Whether a token can only stand outside the content of a document. -/
def isOutside : Lexeme → Bool
  | .versionDirective _ _ => true
  | .tagDirective _ _ => true
  | .documentStart => true
  | .documentEnd => true
  | .streamEnd => true
  | _ => false

/-- Reads a document that has directives or a marker in front of it. -/
def markedDocument (fuel : Nat) (r : Reading) : Except Fault (Node × Reading) := do
  let r ← directives fuel false r
  let known := standardHandles.filter fun h => !r.handles.any (·.1 = h.1)
  let r := { r with handles := r.handles ++ known }
  match r.peek.lexeme with
  | .documentStart =>
    let mark := r.peek.stop
    let r := r.skip
    if isOutside r.peek.lexeme then return (empty mark, r) else node fuel true false r
  | _ => .error (r.fault "did not find expected <document start>")

/-- Reads the first document of a text. A text without any holds nothing, which is the empty
scalar. -/
def firstDocument (fuel : Nat) (r : Reading) : Except Fault (Node × Reading) :=
  match r.peek.lexeme with
  | .streamEnd => .ok (empty .origin, r)
  | .versionDirective _ _ => markedDocument fuel r
  | .tagDirective _ _ => markedDocument fuel r
  | .documentStart => markedDocument fuel r
  | _ => node fuel true false { r with handles := standardHandles }

/-- Whether a token ends a document. -/
def isDocumentEnd : Lexeme → Bool
  | .documentEnd => true
  | _ => false

/-- Reads the one document of a text. -/
def document (r : Reading) : Except Fault Node := do
  let (result, r) ← firstDocument (3 * r.tokens.length + 3) r
  let r : Reading := { r with tokens := r.tokens.dropWhile fun t => isDocumentEnd t.lexeme }
  match r.peek.lexeme with
  | .streamEnd => return result
  | _ => .error ⟨"deserializing from YAML containing more than one document is not supported", .origin⟩

end Reading

/-- The tree of a text that holds one document. -/
def Node.read (text : String) : Except Fault Node := do
  Reading.document ⟨← tokens text, [], []⟩

end SemanticLayer.Yaml
