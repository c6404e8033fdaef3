import SemanticLayer.Yaml.Node.Basic
import SemanticLayer.Json.Basic
import SemanticLayer.Shape
/-!
A YAML tree as a value without a schema. Scalars without a tag are resolved by the rules for plain
scalars, those in quotes and in blocks are strings, and the standard tags ask for a kind. Keys are
strings as they are written. Collections may be nested at most 128 deep, and aliases may be followed
at most a hundred times for each part of the document.
-/
namespace SemanticLayer.Yaml

/-- Why a tree has no value. -/
inductive ValueFault where
  | tooDeep
  | tooManyAliases
  | unknownTag (tag : String)
  | notOfKind (text : String) (kind : Plain.Kind)
  | outOfRange (value : Int)
  | keyNotScalar
  deriving DecidableEq, Repr

/-- The wording of a fault. -/
def ValueFault.message : ValueFault → String
  | .tooDeep => "recursion limit exceeded"
  | .tooManyAliases => "repetition limit exceeded"
  | .unknownTag _ => "invalid type: enum, expected any valid JSON value"
  | .notOfKind text kind => Shape.invalidText text kind.expected
  | .outOfRange _ => "JSON number out of range"
  | .keyNotScalar => "invalid type: expected a string key"

namespace Node

mutual
/-- The number of parts of a tree: one for a scalar and an alias, two for a collection. -/
def parts : Node → Nat
  | .scalar .. => 1
  | .alias _ => 1
  | .loop _ => 1
  | .seq _ _ items => 2 + partsOfItems items
  | .map _ _ entries => 2 + partsOfEntries entries
/-- The parts of items. -/
def partsOfItems : List Node → Nat
  | [] => 0
  | n :: rest => parts n + partsOfItems rest
/-- The parts of entries. -/
def partsOfEntries : List (Node × Node) → Nat
  | [] => 0
  | (k, v) :: rest => parts k + parts v + partsOfEntries rest
end

/-- The value of a scalar of the given text that stands for something. -/
def ofPlain (text : String) : Plain → Except ValueFault Json
  | .null => .ok .null
  | .bool b => .ok (.bool b)
  | .int n => .ok (.int n)
  | .wide n => .error (.outOfRange n)
  | .float x => .ok (.double x)
  | .special _ => .ok .null
  | .str => .ok (.str text)

/-- The value of a scalar with a tag; tags that ask for no kind make it a text. -/
def ofTagged (tag text : String) : Except ValueFault Json :=
  match Plain.Kind.ofTag? tag with
  | none => .ok (.str text)
  | some kind =>
    match Plain.ofKind? kind text with
    | some plain => ofPlain text plain
    | none => .error (.notOfKind text kind)

/-- The value of a scalar. -/
def ofScalar (tag : Option String) (style : Style) (text : String) : Except ValueFault Json :=
  match tag with
  | some tag => if isOwnTag tag then .error (.unknownTag tag) else ofTagged tag text
  | none => if style = .plain then ofPlain text (Plain.resolve text) else .ok (.str text)

/-- Takes one from the aliases that may still be followed. -/
def follow : Nat → Except ValueFault Nat
  | 0 => .error .tooManyAliases
  | aliases + 1 => .ok aliases

/-- The text of a key, and the aliases that may still be followed. -/
def keyText (aliases : Nat) : Node → Except ValueFault (String × Nat)
  | .scalar _ _ _ text => .ok (text, aliases)
  | .alias target => do keyText (← follow aliases) target
  | _ => .error .keyNotScalar

mutual
/-- The value of a node that is at most `depth` levels deep, and the aliases that may still be
followed. -/
def value (depth aliases : Nat) : Node → Except ValueFault (Json × Nat)
  | .scalar _ tag style text => do return (← ofScalar tag style text, aliases)
  | .alias target => do value depth (← follow aliases) target
  | .loop _ => .error .tooDeep
  | .seq _ tag items =>
    if tag.any isOwnTag then .error (.unknownTag (tag.getD ""))
    else if depth = 0 then .error .tooDeep
    else do
      let (values, aliases) ← valuesOfItems (depth - 1) aliases items
      return (.arr values, aliases)
  | .map _ tag entries =>
    if tag.any isOwnTag then .error (.unknownTag (tag.getD ""))
    else if depth = 0 then .error .tooDeep
    else do
      let (members, aliases) ← valuesOfEntries (depth - 1) aliases entries
      return (Json.object members, aliases)
/-- The values of items. -/
def valuesOfItems (depth aliases : Nat) : List Node → Except ValueFault (List Json × Nat)
  | [] => .ok ([], aliases)
  | n :: rest => do
    let (v, aliases) ← value depth aliases n
    let (vs, aliases) ← valuesOfItems depth aliases rest
    return (v :: vs, aliases)
/-- The members that entries stand for. -/
def valuesOfEntries (depth aliases : Nat) :
    List (Node × Node) → Except ValueFault (List (String × Json) × Nat)
  | [] => .ok ([], aliases)
  | (key, n) :: rest => do
    let (k, aliases) ← keyText aliases key
    let (v, aliases) ← value depth aliases n
    let (vs, aliases) ← valuesOfEntries depth aliases rest
    return ((k, v) :: vs, aliases)
end

/-- How deep collections may be nested. -/
def depthLimit : Nat := 128

/-- The value of a whole tree. -/
def toJson (n : Node) : Except ValueFault Json :=
  (n.value depthLimit (100 * n.parts)).map (·.1)

end Node

/-- The value of a text that holds one document, or the wording of what is wrong. -/
def readValue (text : String) : Except String Json :=
  match Node.read text with
  | .error fault => .error fault.message
  | .ok node =>
    match node.toJson with
    | .error fault => .error fault.message
    | .ok value => .ok value

end SemanticLayer.Yaml
