import SemanticLayer.Compile.Basic
import SemanticLayer.Drift.Basic
import SemanticLayer.LineDiff.Compact
import SemanticLayer.Provider.Basic
/-!
Differences between the semantic view that an ontology compiles to and the one that is deployed.
What the deployed view lacks is a divergence; what it has besides, or otherwise, is a manual edit.
Things are matched by name, of which the last bearer counts.
-/
namespace SemanticLayer.Drift

/-- A difference of semantic views. -/
def viewEvent (kind : DriftKind) (element message : String) (details : Json) : DriftEvent :=
  ⟨kind, .semanticView, element, message, details⟩

/-- Compares the things of two lists that have the same name. `kind` and `title` are the words for
such a thing. -/
def matchLast (kind title : String) (name : α → String) (expected deployed : List α)
    (both : String → α → α → List DriftEvent) : List DriftEvent :=
  (textSet (expected.map name ++ deployed.map name)).flatMap fun n =>
    let details := Json.obj [("kind", .str kind)]
    match expected.reverse.find? (name · = n), deployed.reverse.find? (name · = n) with
    | some _, none =>
      [viewEvent .yamlDivergence s!"{kind}:{n}"
        s!"{title} '{n}' is missing from the deployed view" details]
    | none, some _ =>
      [viewEvent .manualEditDetected s!"{kind}:{n}"
        s!"{title} '{n}' exists only in the deployed view" details]
    | some x, some y => both n x y
    | none, none => []

/-- A manual edit of something that is in both views. -/
def edited (kind : String) (n message : String) (expected deployed : Json) : DriftEvent :=
  viewEvent .manualEditDetected s!"{kind}:{n}" message
    (.obj [("deployed", deployed), ("expected", expected)])

/-- The differences of the logical tables. -/
def tableDrift (expected deployed : List LogicalTable) : List DriftEvent :=
  matchLast "table" "Logical table" LogicalTable.name expected deployed fun n x y =>
    if x.base = y.base then []
    else [edited "table" n s!"Logical table '{n}' points at a different base table"
      x.base.toJson y.base.toJson]

/-- Whether two lists have the same pairs of columns. -/
def sameColumns (xs ys : List ColumnPair) : Bool :=
  xs.all (fun p => ys.any (· = p)) && ys.all fun p => xs.any (· = p)

/-- The differences of the relationships. -/
def joinDrift (expected deployed : List Join) : List DriftEvent :=
  matchLast "relationship" "Relationship" Join.name expected deployed fun n x y =>
    if sameColumns x.columns y.columns then []
    else [edited "relationship" n s!"Relationship '{n}' joins on different columns when deployed"
      (.arr (x.columns.map ColumnPair.toJson)) (.arr (y.columns.map ColumnPair.toJson))]

/-- The differences of the facts. -/
def factDrift (expected deployed : List Fact) : List DriftEvent :=
  matchLast "fact" "Fact" Fact.name expected deployed fun n x y =>
    if Text.trim x.expr = Text.trim y.expr then []
    else [edited "fact" n s!"Fact '{n}' has a different expression when deployed"
      (.str x.expr) (.str y.expr)]

/-- The differences of two models. -/
def compareModels (expected deployed : Model) : List DriftEvent :=
  tableDrift expected.tables deployed.tables
    ++ joinDrift expected.relationships deployed.relationships
    ++ factDrift expected.facts deployed.facts

/-- Something is wrong with a view as a whole. -/
def divergence (view : View) (message : String) (details : Json) : List DriftEvent :=
  [viewEvent .yamlDivergence view.name message details]

/-- A summary of the differences of a view, if there are more than a threshold. -/
def manualEdit (view : View) (threshold differences : Nat) (expected deployed : String) :
    List DriftEvent :=
  if differences ≤ threshold then []
  else [viewEvent .manualEditDetected view.name
    (s!"Deployed semantic view {view.qualifiedName} diverges significantly "
      ++ s!"({differences} differences)")
    (.obj [("diff", .str (LineDiff.lineDiff expected deployed)),
      ("differences", Json.ofNat differences), ("threshold", Json.ofNat threshold)])]

/-- The differences between a compiled model and the definition that is deployed. -/
def definitionDrift (view : View) (threshold : Nat) (expected : Compiled) (deployed : String) :
    List DriftEvent :=
  match Model.parse deployed with
  | .error message =>
    divergence view
      (s!"Deployed definition of {view.qualifiedName} is not a readable semantic model: "
        ++ message)
      (.obj [("error", .str message)])
  | .ok model =>
    let events := compareModels expected.model model
    events ++ manualEdit view threshold events.length expected.yaml deployed

/-- The differences of the view of an ontology. -/
def viewDrift (ontology : Ontology) (provider : Provider) (view : View) (threshold : Nat) :
    Except ProviderError (List DriftEvent) :=
  match Compile.forView ontology view none with
  | .error e =>
    .ok (divergence view
      s!"Could not compile expected semantic view {view.qualifiedName}: {e.message}"
      (.obj [("error", .str e.message)]))
  | .ok expected =>
    match provider.view? view.database view.schema view.name with
    | .error e => .error e
    | .ok none =>
      .ok (divergence view s!"Semantic view {view.qualifiedName} is not deployed"
        (.obj [("deployed", .bool false)]))
    | .ok (some deployed) => .ok (definitionDrift view threshold expected deployed.yaml)

end SemanticLayer.Drift
