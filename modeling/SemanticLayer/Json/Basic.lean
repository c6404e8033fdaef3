import SemanticLayer.Keyed
import SemanticLayer.Number.Binary64
import SemanticLayer.Text.Blank
/-!
JSON values. A number is either an integer that fits 64 bits, signed or unsigned, or a finite
binary floating-point number. The members of an object are a list of pairs: `Json.object` builds
objects whose keys are distinct and in increasing order, which is the form of every document that
was read; the records that this library writes keep the order in which their fields are declared.
-/
namespace SemanticLayer

/-- A JSON value. -/
inductive Json where
  | null
  | bool (value : Bool)
  | int (value : Int)
  | double (value : Binary64)
  | str (value : String)
  | arr (items : List Json)
  | obj (members : List (String × Json))
  deriving Repr, Inhabited, BEq

namespace Json

/-- The object with the given members in the order of their keys; of a repeated key the last
member stays. -/
def object (members : List (String × Json)) : Json :=
  .obj (Keyed.ofList members)

/-- The member of an object under a key; other values have no members. -/
def get? : Json → String → Option Json
  | .obj members, key => Keyed.get? key members
  | _, _ => none

/-- The item of an array at an index. -/
def item? : Json → Nat → Option Json
  | .arr items, index => items[index]?
  | _, _ => none

/-- The text of a string. -/
def str? : Json → Option String
  | .str s => some s
  | _ => none

/-- The value of a boolean. -/
def bool? : Json → Option Bool
  | .bool b => some b
  | _ => none

/-- The items of an array. -/
def arr? : Json → Option (List Json)
  | .arr items => some items
  | _ => none

/-- The members of an object. -/
def obj? : Json → Option (List (String × Json))
  | .obj members => some members
  | _ => none

def isStr (v : Json) : Bool := v.str?.isSome
def isArr (v : Json) : Bool := v.arr?.isSome
def isObj (v : Json) : Bool := v.obj?.isSome

/-- The items of the array stored under a key; nothing if there is none. -/
def items (v : Json) (key : String) : List Json :=
  ((v.get? key).bind arr?).getD []

/-- The text stored under a key, if there is one. -/
def text? (v : Json) (key : String) : Option String :=
  (v.get? key).bind str?

/-- The text under a key, or a default. -/
def textOr (v : Json) (key default : String) : String := (v.text? key).getD default

/-- The text under a key, if it is not empty. -/
def nonEmptyText? (v : Json) (key : String) : Option String := (v.text? key).bind Text.unlessEmpty

/-- The truth value under a key, or a default. -/
def flagOr (v : Json) (key : String) (default : Bool) : Bool :=
  ((v.get? key).bind bool?).getD default

/-- The texts in the array under a key. -/
def texts (v : Json) (key : String) : List String := (v.items key).filterMap str?

/-- The records in the array under a key. -/
def records (v : Json) (key : String) : List Json := (v.items key).filter isObj

/-- The texts at the first two places of an array. -/
def textPair? (v : Json) : Option (String × String) := do
  return (← (v.item? 0).bind str?, ← (v.item? 1).bind str?)

/-- The name of the kind of a value. -/
def typeName : Json → String
  | .null => "null"
  | .bool _ => "boolean"
  | .int _ => "number"
  | .double _ => "number"
  | .str _ => "string"
  | .arr _ => "array"
  | .obj _ => "object"

/-- An optional text, with null for none. -/
def ofText? : Option String → Json
  | some s => .str s
  | none => .null

/-- A list of texts. -/
def ofTexts (texts : List String) : Json := .arr (texts.map .str)

/-- A natural number. -/
def ofNat (n : Nat) : Json := .int n

mutual
/-- Whether every object in the value has distinct keys in increasing order. -/
def ordered : Json → Bool
  | .arr items => orderedItems items
  | .obj members => orderedMembers none members
  | _ => true
/-- `ordered` for all items of an array. -/
def orderedItems : List Json → Bool
  | [] => true
  | v :: rest => ordered v && orderedItems rest
/-- `ordered` for the members that follow the key `last`. -/
def orderedMembers : Option String → List (String × Json) → Bool
  | _, [] => true
  | last, (k, v) :: rest =>
    (match last with
      | some l => decide (l < k)
      | none => true) && ordered v && orderedMembers (some k) rest
end

end Json
end SemanticLayer
