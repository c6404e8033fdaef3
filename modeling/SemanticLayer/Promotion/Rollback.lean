import SemanticLayer.Provider.Basic
import SemanticLayer.Sql.Script
/-!
How to undo the deployment of a view: if its earlier definition can be had, it is restored, and
otherwise the view is dropped.
-/
namespace SemanticLayer

/-- A script that undoes a deployment, and the definition that it restores. -/
structure RollbackPlan where
  sql : String
  exportedYaml : Option String
  deriving DecidableEq, Repr

namespace RollbackPlan

/-- Whether an earlier definition is restored. -/
def restores (p : RollbackPlan) : Bool := p.exportedYaml.isSome

/-- The definition of a view that is deployed, if it can be had. -/
def exported? (view : View) (provider : Option Provider) : Option String :=
  provider.bind fun p =>
    match p.view? view.database view.schema view.name with
    | .ok (some found) => some found.yaml
    | .ok none => none
    | .error _ => none

/-- The plan for a view. -/
def of (view : View) (provider : Option Provider) : RollbackPlan :=
  match exported? view provider with
  | some yaml => ⟨Sql.restoreScript view yaml, some yaml⟩
  | none => ⟨Sql.dropScript view, none⟩

end RollbackPlan
end SemanticLayer
