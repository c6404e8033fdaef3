import SemanticLayer.Model.Codec
import SemanticLayer.Yaml.Node.Shape
/-!
Semantic models in YAML. A model is written as the tree of its value, in which every leaf is a
text, and is read back by its shape.
-/
namespace SemanticLayer

namespace Yaml

mutual
/-- A value whose leaves are texts, as a tree to be written. -/
def Tree.ofJson : Json → Tree
  | .str s => .scalar s
  | .arr items => .seq (Tree.ofItems items)
  | .obj members => .map (Tree.ofMembers members)
  | _ => .scalar ""
/-- The trees of items. -/
def Tree.ofItems : List Json → List Tree
  | [] => []
  | v :: rest => Tree.ofJson v :: Tree.ofItems rest
/-- The trees of members. -/
def Tree.ofMembers : List (String × Json) → List (String × Tree)
  | [] => []
  | (k, v) :: rest => (k, Tree.ofJson v) :: Tree.ofMembers rest
end

end Yaml

namespace Model

/-- The YAML text of a model. -/
def render (m : Model) : String := (Yaml.Tree.ofJson m.toJson).render

/-- The model that a YAML text holds, or the wording of what is wrong with the text. -/
def parse (text : String) : Except String Model :=
  match Yaml.readShaped shape text with
  | .error message => .error message
  | .ok value =>
    match ofJson? value with
    | some model => .ok model
    | none => .error "not a semantic model"

end Model
end SemanticLayer
