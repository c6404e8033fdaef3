import SemanticLayer.Drift.Mapping
import SemanticLayer.Drift.View
/-!
Detection of all differences between an ontology and a warehouse: of the tables first, and then of
the semantic view, if one is named. Only a provider that cannot be asked is an error.
-/
namespace SemanticLayer

/-- Where to look, and how many differences of a view are worth a summary. -/
structure DriftOptions where
  database : Option String
  schema : Option String
  view : Option View
  threshold : Nat
  deriving Repr

/-- The threshold that holds where none is given. -/
def DriftOptions.defaultThreshold : Nat := 5

/-- The differences between an ontology and a warehouse. -/
def detectDrift (ontology : Ontology) (provider : Provider) (options : DriftOptions) :
    Except ProviderError DriftReport := do
  let mapping ← Drift.mappingDrift ontology provider options.database options.schema
  let view ← match options.view with
    | some view => Drift.viewDrift ontology provider view options.threshold
    | none => .ok []
  return ⟨ontology.name, mapping ++ view⟩

end SemanticLayer
