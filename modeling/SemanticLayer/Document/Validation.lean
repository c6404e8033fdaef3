import SemanticLayer.Document.Grammar
import SemanticLayer.Document.Names
/-!
The verdict on a document: its grammar, its references, its names and words, and the references of
its mapping, in this order. No part keeps another from being checked.
-/
namespace SemanticLayer.Document

/-- All that is wrong with a document. -/
def validate (root : Json) : Report :=
  let scope := Scope.ofDocument root
  Report.ofFindings
    (grammar root ++ references scope root ++ names root ++ mappingReferences scope root)

end SemanticLayer.Document
