import SemanticLayer.Json.Basic
import SemanticLayer.Shape
import SemanticLayer.Yaml.Node.Basic
/-!
A YAML tree of a known shape. Every scalar is a text, whatever a schema would make of it; an empty
plain scalar is an empty list or record, and where a value is optional, nothing. A fault names the
place of the value in the shape and where it stands in the text.
-/
namespace SemanticLayer.Yaml

/-- Why a tree is not of a shape. -/
structure Misfit where
  message : String
  /-- The way from the root to the value, empty for the root. -/
  path : String
  mark : Mark
  deriving Repr

/-- The wording of a misfit; neither the root nor the start of the text is named. -/
def Misfit.text (m : Misfit) : String :=
  (if m.path.isEmpty then m.message else s!"{m.path}: {m.message}") ++
    if m.mark.line = 0 ∧ m.mark.column = 0 then "" else s!" at {m.mark.text}"

namespace Node

/-- Where a node starts; an alias stands for the node that it names. -/
def mark : Node → Mark
  | .scalar mark _ _ _ => mark
  | .seq mark _ _ => mark
  | .map mark _ _ => mark
  | .alias target => target.mark
  | .loop mark => mark

/-- How messages show the number that a plain scalar stands for. -/
def floatText (x : Binary64) : String := s!"floating point `{x.positional}`"

/-- How messages show what a scalar of the given text stands for. -/
def plainFound (text : String) : Plain → String
  | .null => "unit value"
  | .bool b => Shape.foundBool b
  | .int n => Shape.foundInt n
  | .wide n => s!"integer `{n}` as " ++ (if n < 0 then "i128" else "u128")
  | .float x => floatText x
  | .special s => s!"floating point `{specialText s}`"
  | .str => Shape.foundText text
where
  /-- The name of an infinity or of what is no number. -/
  specialText (s : String) : String :=
    match s.toList.filter (fun c => c ≠ '.' ∧ c ≠ '+') with
    | '-' :: _ => "-inf"
    | c :: _ => if c = 'n' ∨ c = 'N' then "NaN" else "inf"
    | [] => "inf"

/-- What messages say of a scalar that is not what is expected. A plain scalar is shown as what it
stands for, also under a tag of an application's own; one with a tag that asks for a kind must be of
that kind first. -/
def scalarMisfit (expected : String) (tag : Option String) (style : Style) (text : String) :
    String :=
  let asPlain := Shape.mismatch (plainFound text (Plain.resolve text)) expected
  let asText := Shape.mismatch (Shape.foundText text) expected
  match tag with
  | none => if style = .plain then asPlain else asText
  | some tag =>
    match Plain.Kind.ofTag? tag with
    | none => if isOwnTag tag && style = .plain then asPlain else asText
    | some kind =>
      match Plain.ofKind? kind text with
      | some plain => Shape.mismatch (plainFound text plain) expected
      | none => Shape.invalidText text kind.expected

/-- What messages say of a node that is not what is expected. -/
def misfitText (expected : String) : Node → String
  | .scalar _ tag style text => scalarMisfit expected tag style text
  | .seq .. => Shape.mismatch "sequence" expected
  | .map .. => Shape.mismatch "map" expected
  | .alias target => target.misfitText expected
  | .loop _ => Shape.mismatch "map" expected

/-- The node is not what the shape wants. -/
def misfit (shape : Shape) (path : String) (n : Node) : Misfit :=
  ⟨n.misfitText shape.expected, path, n.mark⟩

/-- The way to a field of a value. -/
def fieldPath (path key : String) : String :=
  if path.isEmpty then key else s!"{path}.{key}"

/-- Whether a scalar is nothing at all. -/
def isEmptyPlain (style : Style) (text : String) : Bool := style = .plain && text.isEmpty

/-- Whether a scalar where a value is optional says that there is none. -/
def isNone (tag : Option String) (style : Style) (text : String) : Bool :=
  style = .plain && match tag with
    | none => Plain.resolve text = .null
    | some tag => Plain.Kind.ofTag? tag = some .null && (Plain.ofKind? .null text).isSome

/-- The text of a key. -/
def keyOf? : Node → Option String
  | .scalar _ _ _ text => some text
  | .alias target => target.keyOf?
  | _ => none

/-- The value of a scalar that is there. -/
def scalarValue (shape : Shape) (path : String) (n : Node) (style : Style) (text : String)
    (mark : Mark) : Except Misfit Json :=
  match shape with
  | .text => .ok (.str text)
  | .list _ => if isEmptyPlain style text then .ok (.arr []) else .error (misfit shape path n)
  | .record _ fields =>
    if isEmptyPlain style text then
      match Shape.missing? fields [] with
      | some name => .error ⟨Shape.missingField name, path, mark⟩
      | none => .ok (.obj [])
    else .error (misfit shape path n)
  | .flag =>
    match Plain.resolve text with
    | .bool b => .ok (.bool b)
    | _ => .error (misfit shape path n)
  | .optional _ => .error (misfit shape path n)

/-- The shape without being optional. -/
def stripOptional : Shape → Shape
  | .optional inner => inner
  | shape => shape

/-- A key that is no scalar. -/
def misfitKey (path : String) (key : Node) : Misfit :=
  ⟨key.misfitText "field identifier", path, key.mark⟩

mutual
/-- The value of a node, if it is of the shape. -/
def conform (shape : Shape) (path : String) : Node → Except Misfit Json
  | .alias target => conform shape path target
  | .loop mark => .error ⟨"recursion limit exceeded", path, mark⟩
  | .scalar mark tag style text =>
    match shape with
    | .optional inner =>
      if isNone tag style text then .ok .null
      else scalarValue inner path (.scalar mark tag style text) style text mark
    | shape => scalarValue shape path (.scalar mark tag style text) style text mark
  | .seq mark tag items =>
    match stripOptional shape with
    | .list item => do return .arr (← conformItems item path 0 items)
    | shape => .error (misfit shape path (.seq mark tag items))
  | .map mark tag entries =>
    match stripOptional shape with
    | .record _ fields => do
      let members ← conformEntries fields path mark [] entries
      match Shape.missing? fields (members.map (·.1)) with
      | some name => .error ⟨Shape.missingField name, path, mark⟩
      | none => return .obj members
    | shape => .error (misfit shape path (.map mark tag entries))
/-- The values of items of a list, the first of which has the given index. -/
def conformItems (shape : Shape) (path : String) (index : Nat) :
    List Node → Except Misfit (List Json)
  | [] => .ok []
  | n :: rest => do
    let v ← conform shape s!"{path}[{index}]" n
    let vs ← conformItems shape path (index + 1) rest
    return v :: vs
/-- The fields among the entries of a record; those of other names are left out. -/
def conformEntries (fields : List (String × Bool × Shape)) (path : String) (mark : Mark)
    (done : List String) : List (Node × Node) → Except Misfit (List (String × Json))
  | [] => .ok []
  | (key, n) :: rest =>
    match key.keyOf? with
    | none => .error (misfitKey path key)
    | some name =>
      match Keyed.get? name fields with
      | none => conformEntries fields path mark done rest
      | some (_, shape) =>
        if done.contains name then .error ⟨Shape.duplicateField name, path, mark⟩
        else do
          let v ← conform shape (fieldPath path name) n
          let vs ← conformEntries fields path mark (name :: done) rest
          return (name, v) :: vs
end

end Node

/-- The value of a text that holds one document of a shape, or the wording of what is wrong. -/
def readShaped (shape : Shape) (text : String) : Except String Json :=
  match Node.read text with
  | .error fault => .error fault.message
  | .ok node =>
    match node.conform shape "" with
    | .error misfit => .error misfit.text
    | .ok value => .ok value

end SemanticLayer.Yaml
