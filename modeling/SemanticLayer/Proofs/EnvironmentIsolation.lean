import SemanticLayer.Proofs.PromotedDeployment

/-! Environments do not learn where the document itself is stored. Moving the mapping of an ontology to an
environment overwrites all that a promotion reads of it, apart from the tables (`build_retarget`). So each
object is in the place of the environment or in one of its own, and ontologies that differ in their own
places alone are promoted to the same bundle, or fail in the same way. Main statement:
`environments_isolated`. -/
namespace SemanticLayer

namespace Ontology

/-- The tables that the mapping names; without a mapping there are none. -/
def mappedTables (o : Ontology) : List (String × String) := (o.mapping.map Mapping.tables).getD []

/-- Two ontologies that differ at most in where their mappings say that they are stored: in database,
schema and warehouse. A mapping without tables is like none. -/
structure SameApartFromPlace (o p : Ontology) : Prop where
  declared : { o with mapping := none } = { p with mapping := none }
  tables : o.mappedTables = p.mappedTables

theorem mappedTables_get? (o : Ontology) (name : String) :
    (o.mapping.bind fun m => Keyed.get? name m.tables) = Keyed.get? name o.mappedTables := by
  unfold mappedTables
  cases o.mapping <;> rfl

theorem physicalTable_congr {o p : Ontology} (same : o.mappedTables = p.mappedTables) (x : Object) :
    o.physicalTable x = p.physicalTable x := by
  simp only [physicalTable, mappedTables_get?, same]

end Ontology

namespace Promotion
variable {o p : Ontology} {view : View}

/-- Where the table of an object is in an environment: in a place of its own, if it has one, and else in
that of the environment. -/
def placeIn (o : Ontology) (view : View) (x : Object) : BaseTable where
  database := (x.database.bind Text.unlessEmpty).getD view.database
  schema := (x.schema.bind Text.unlessEmpty).getD view.schema
  table := o.physicalTable x

/-- A place that falls back on the one it is mapped to is its own or that one. -/
theorem placed_eq (own : Option String) (place : String) :
    ((own <|> some place).bind Text.unlessEmpty).getD place = (own.bind Text.unlessEmpty).getD place := by
  cases own with
  | some own => rfl
  | none => exact Text.unlessEmpty_getD place

theorem base_placeIn (o : Ontology) (view : View) (x : Object) :
    (Model.tableOf (retarget o view) view x).base = placeIn o view x := by
  have database := placed_eq x.database view.database
  have schema := placed_eq x.schema view.schema
  simp only [Model.tableOf, placeIn, BaseTable.mk.injEq, retarget_table, and_true]
  exact ⟨database, schema⟩

/-- An environment gets the same model of ontologies that differ in their own places alone. -/
theorem build_retarget (same : o.SameApartFromPlace p) (view : View) :
    Model.build (retarget o view) view = Model.build (retarget p view) view := by
  obtain ⟨-, -, description, objects, relationships, metrics, dimensions, -⟩ :=
    Ontology.mk.inj same.declared
  have tables (x : Object) : Model.tableOf (retarget o view) view x =
      Model.tableOf (retarget p view) view x := by
    have base : (Model.tableOf (retarget o view) view x).base =
        (Model.tableOf (retarget p view) view x).base := by
      rw [base_placeIn, base_placeIn, placeIn, placeIn, Ontology.physicalTable_congr same.tables]
    have columns : Model.columnsOf (retarget o view) x = Model.columnsOf (retarget p view) x := by
      simp only [Model.columnsOf, retarget, dimensions]
    simp only [Model.tableOf, LogicalTable.mk.injEq, true_and]
    exact ⟨base, columns⟩
  simp only [Model.build, Model.mk.injEq, true_and]
  refine ⟨description, ?_, congrArg (List.map Model.joinOf) relationships,
    congrArg (List.map Model.factOf) metrics⟩
  show o.objects.map _ = p.objects.map _
  rw [objects, funext tables]

theorem stage_congr (same : o.SameApartFromPlace p) (provider : Option Provider) (version : Option Int)
    (e : Environment) : stage o provider version e = stage p provider version e := by
  obtain ⟨name, view⟩ := e
  have compiles : Compile.forView (retarget o view) view version =
      Compile.forView (retarget p view) view version := by
    simp only [Compile.forView, build_retarget same]
  simp only [stage, compiles]

/-- In each environment whose view has a name, objects are in places of their own or in that of the
environment; and nothing of a promotion depends on where the document itself is stored. -/
theorem environments_isolated (o : Ontology) (environments : List Environment)
    (provider : Option Provider) (options : PromotionOptions) :
    (∀ name view, Text.allBlank view.name = false →
      ∃ s, stage o provider options.version (name, view) = .ok s ∧
        s.compiled.model.tables.map (fun t => (t.name, t.base)) =
          o.objects.map fun x => (x.name, placeIn o view x)) ∧
    ∀ p, o.SameApartFromPlace p →
      bundle o environments provider options = bundle p environments provider options := by
  constructor
  · intro name view named
    refine ⟨_, stage_ok.mpr ⟨named, rfl⟩, ?_⟩
    show ((o.objects.map (Model.tableOf (retarget o view) view)).map fun t => (t.name, t.base)) = _
    rw [List.map_map]
    refine List.map_congr_left fun x _ => ?_
    exact congrArg (Prod.mk x.name) (base_placeIn o view x)
  · intro p same
    unfold bundle
    rw [funext (stage_congr same provider options.version)]

/-- Orders and customers; the customers are shared by all environments, in a schema of no name. -/
def sharedCustomers (mapping : Option Mapping) : Ontology where
  version := "1"
  name := "sales"
  description := ""
  objects := [⟨"Customer", "", [], [], none, some "", some "SHARED"⟩,
    ⟨"Order", "", ["id"], [⟨"id", .integer, "", false, true⟩], some "ORDERS", none, none⟩]
  relationships := []
  metrics := [⟨"volume", "COUNT(*)", ["Order"], .count, none, ""⟩]
  dimensions := []
  mapping := mapping

theorem shared_customers_isolated :
    Text.allBlank Drift.productionView.name = false ∧
    (∃ s, stage (sharedCustomers (some ⟨"DEV_DB", "DEV", none, []⟩)) none (some 1)
        ("prod", Drift.productionView) = .ok s ∧
      s.compiled.model.tables.map (fun t => (t.name, t.base)) =
        [("Customer", ⟨"SHARED", "PUBLIC", "customer"⟩), ("Order", ⟨"PROD_DB", "PUBLIC", "ORDERS"⟩)]) ∧
    (sharedCustomers (some ⟨"DEV_DB", "DEV", none, []⟩)).SameApartFromPlace (sharedCustomers none) ∧
    bundle (sharedCustomers (some ⟨"DEV_DB", "DEV", none, []⟩)) Drift.orderEnvironments none
        ⟨some 1, ⟨0⟩⟩ =
      bundle (sharedCustomers none) Drift.orderEnvironments none ⟨some 1, ⟨0⟩⟩ := by
  have named : Text.allBlank Drift.productionView.name = false := by decide
  have same : (sharedCustomers (some ⟨"DEV_DB", "DEV", none, []⟩)).SameApartFromPlace
      (sharedCustomers none) := ⟨rfl, rfl⟩
  obtain ⟨places, independent⟩ := environments_isolated
    (sharedCustomers (some ⟨"DEV_DB", "DEV", none, []⟩)) Drift.orderEnvironments none ⟨some 1, ⟨0⟩⟩
  obtain ⟨s, staged, tables⟩ := places "prod" Drift.productionView named
  refine ⟨named, ⟨s, staged, tables.trans ?_⟩, same, independent _ same⟩
  decide

end Promotion
end SemanticLayer
