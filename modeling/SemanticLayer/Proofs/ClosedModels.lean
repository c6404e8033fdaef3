import SemanticLayer.Proofs.BundleContents
import SemanticLayer.Proofs.ModelColumns
import SemanticLayer.Proofs.WellFormed

/-! What the model of a document that compiles refers to. Joins and grains are always of tables of the model. The
columns of joins are columns of these tables if the document has a mapping; a document without one may name any,
since its join keys are not looked at, and options can still give it a place. Main statement:
`compiled_closed`. -/
namespace SemanticLayer

namespace Model

/-- The name is that of exactly one table of the model. -/
def NamesTable (m : Model) (name : String) : Prop := (m.tables.map LogicalTable.name).count name = 1

/-- Joins and grains are of tables of the model. -/
structure TablesClosed (m : Model) : Prop where
  ends : ∀ join ∈ m.relationships, m.NamesTable join.leftTable ∧ m.NamesTable join.rightTable
  grains : ∀ fact ∈ m.facts, ∀ table ∈ fact.grain, m.NamesTable table

/-- The columns of joins are columns of the tables that are joined. -/
def ColumnsClosed (m : Model) : Prop :=
  ∀ join ∈ m.relationships, ∀ pair ∈ join.columns, ∀ table ∈ m.tables,
    (table.name = join.leftTable → table.HasColumn pair.left) ∧
    (table.name = join.rightTable → table.HasColumn pair.right)

end Model

/-- The join keys are columns that the joined objects show. -/
def Ontology.KeysShown (o : Ontology) : Prop :=
  ∀ r ∈ o.relationships, ∀ pair ∈ r.joinKeys, ∀ x ∈ o.objects,
    (x.name = r.source → o.Shows x pair.1) ∧ (x.name = r.target → o.Shows x pair.2)

/-! ### Models of well-formed ontologies -/

namespace Model
variable {o : Ontology} {view : View}

theorem namesTable (wellFormed : o.WellFormed) {name : String} (listed : name ∈ o.objectNames) :
    (build o view).NamesTable name := by
  have names : (build o view).tables.map LogicalTable.name = o.objectNames := List.map_map
  rw [NamesTable, names]
  exact List.count_eq_one_of_mem wellFormed.objects.distinct listed

theorem tablesClosed (wellFormed : o.WellFormed) : (build o view).TablesClosed where
  ends := by
    intro join member
    obtain ⟨r, related, rfl⟩ := List.mem_map.mp member
    obtain ⟨source, target⟩ := wellFormed.ends r related
    exact ⟨namesTable wellFormed source, namesTable wellFormed target⟩
  grains := by
    intro fact member table listed
    obtain ⟨metric, measured, rfl⟩ := List.mem_map.mp member
    exact namesTable wellFormed ((wellFormed.grains metric measured).2 table listed)

theorem columnsClosed_iff (wellFormed : o.WellFormed) : (build o view).ColumnsClosed ↔ o.KeysShown := by
  have shown_iff : ∀ x ∈ o.objects, ∀ column, (tableOf o view x).HasColumn column ↔ o.Shows x column :=
    fun x member column => hasColumn_iff (wellFormed.identifiers x member)
  constructor
  · intro closed r related pair keyed x member
    obtain ⟨left, right⟩ := closed (joinOf r) (List.mem_map_of_mem related) ⟨pair.1, pair.2⟩
      (List.mem_map_of_mem keyed) (tableOf o view x) (List.mem_map_of_mem member)
    exact ⟨fun source => (shown_iff x member _).mp (left source),
      fun target => (shown_iff x member _).mp (right target)⟩
  · intro shown join joined columns listed table built
    obtain ⟨r, related, rfl⟩ := List.mem_map.mp joined
    obtain ⟨pair, keyed, rfl⟩ := List.mem_map.mp listed
    obtain ⟨x, member, rfl⟩ := List.mem_map.mp built
    obtain ⟨left, right⟩ := shown r related pair keyed x member
    exact ⟨fun source => (shown_iff x member _).mpr (left source),
      fun target => (shown_iff x member _).mpr (right target)⟩

end Model

/-- An object of the name has the property that is found through the name. -/
theorem Ontology.Exposes.shows {o : Ontology} {x : Object} {property : String} (wellFormed : o.WellFormed)
    (member : x ∈ o.objects) (exposed : o.Exposes x.name property) : o.Shows x property := by
  obtain ⟨y, found, held⟩ := exposed
  have same : o.object? x.name = some x := find?_name_of_mem wellFormed.objects.distinct member
  cases same.symm.trans found
  exact .inl held

theorem Ontology.WellFormed.keysShown {o : Ontology} (wellFormed : o.WellFormed) (mapped : o.mapping.isSome) :
    o.KeysShown := by
  intro r related pair keyed x member
  obtain ⟨source, target⟩ := wellFormed.joins mapped r related pair keyed
  refine ⟨?_, ?_⟩
  · intro named
    rw [← named] at source
    exact source.shows wellFormed member
  · intro named
    rw [← named] at target
    exact target.shows wellFormed member

/-! ### Documents that compile -/

/-- In the model of a document that compiles, joins and grains are of tables of the model, and the columns of
joins are columns of these tables exactly if the objects show the join keys, which a document with a mapping
makes sure of. -/
theorem compiled_closed {files : FileTree} {source : Document.Source} {options : CompileOptions} {o : Ontology}
    {b : Bundle} (loaded : Document.loadValid files source = .ok o) (compiled : Compile.bundle o options = .ok b) :
    ∃ root view, Document.load files source = .ok root ∧ normalize root = o ∧
      Compile.resolveView o options = .ok view ∧
      b.file? Compile.modelPath = some ⟨Compile.modelPath, (Model.build o view).render⟩ ∧
      (Model.build o view).TablesClosed ∧
      ((root.get? "snowflake").isSome = true → (Model.build o view).ColumnsClosed) ∧
      ((Model.build o view).ColumnsClosed ↔ o.KeysShown) := by
  obtain ⟨root, found, valid, rfl⟩ := Document.loadValid_ok.mp loaded
  obtain ⟨view, resolved, model, _⟩ := Compile.scripts_found compiled
  have form := Document.DocumentForm.of_findings (Document.findings_of_isValid valid)
  have columns_iff : (Model.build (normalize root) view).ColumnsClosed ↔ (normalize root).KeysShown :=
    Model.columnsClosed_iff form.wellFormed
  refine ⟨root, view, found, rfl, resolved, model, Model.tablesClosed form.wellFormed, ?_, columns_iff⟩
  intro mapped
  obtain ⟨mapping, declared⟩ := Option.isSome_iff_exists.mp mapped
  apply columns_iff.mpr
  exact form.wellFormed.keysShown (by rw [form.complete.mapping mapping declared, Option.isSome_some])

/-- Orders with the customers who placed them. -/
def Document.placedOrder : Json :=
  .obj [("identifiers", .arr [.str "id"]), ("name", .str "Order"), ("properties", .arr [
    .obj [("name", .str "id"), ("type", .str "integer")],
    .obj [("name", .str "customer"), ("type", .str "integer")]])]

/-- The join of orders with customers. -/
def Document.placedBy (key : String) : Json :=
  .obj [("from", .str "Order"), ("joinKeys", .arr [.arr [.str key, .str "id"]]), ("name", .str "placed_by"),
    ("to", .str "Customer")]

/-- Orders that are joined with customers by a property, and maybe a mapping. -/
def Document.placedOrders (key : String) (place : List (String × Json)) : Json :=
  .obj ([
    ("objects", .arr [placedOrder, .obj [("identifiers", .arr [.str "id"]), ("name", .str "Customer"),
      ("properties", .arr [.obj [("name", .str "id"), ("type", .str "integer")]])]]),
    ("relationships", .arr [placedBy key])] ++ place ++ [("version", .str "1.0.0")])

/-- Orders in a place of their own, joined by a property that they have. -/
def Document.storedOrders : Json :=
  placedOrders "customer" [("snowflake", .obj [("database", .str "DB"), ("schema", .str "PUBLIC")])]

/-- Orders without a place, joined by a property that they do not have. -/
def Document.strayOrders : Json := placedOrders "buyer" []

theorem stored_orders_closed : ∃ b view,
    Document.loadValid (.empty "/") (.value Document.storedOrders) = .ok (normalize Document.storedOrders) ∧
    Compile.bundle (normalize Document.storedOrders) ⟨some "orders", none, none, none, ⟨0⟩⟩ = .ok b ∧
    Compile.resolveView (normalize Document.storedOrders) ⟨some "orders", none, none, none, ⟨0⟩⟩ = .ok view ∧
    (Model.build (normalize Document.storedOrders) view).TablesClosed ∧
    (Model.build (normalize Document.storedOrders) view).ColumnsClosed := by
  have loaded : Document.loadValid (.empty "/") (.value Document.storedOrders) =
      .ok (normalize Document.storedOrders) := Document.loadValid_ok.mpr ⟨_, rfl, by decide, rfl⟩
  have resolved : Compile.resolveView (normalize Document.storedOrders) ⟨some "orders", none, none, none, ⟨0⟩⟩ =
      .ok ⟨"DB", "PUBLIC", "orders"⟩ := by decide
  obtain ⟨b, compiled⟩ := Compile.bundle_isOk resolved (by decide)
  obtain ⟨root, view, found, _, same, _, tables, columns, _⟩ := compiled_closed loaded compiled
  cases found
  exact ⟨b, view, loaded, compiled, same, tables, columns (by decide)⟩

/-- Without a mapping, a document whose join key is no property can be compiled into a place from options. -/
theorem stray_orders_compile : ∃ b,
    Document.loadValid (.empty "/") (.value Document.strayOrders) = .ok (normalize Document.strayOrders) ∧
    Compile.bundle (normalize Document.strayOrders) ⟨some "orders", some "DB", some "PUBLIC", none, ⟨0⟩⟩ = .ok b ∧
    Compile.resolveView (normalize Document.strayOrders) ⟨some "orders", some "DB", some "PUBLIC", none, ⟨0⟩⟩ =
      .ok ⟨"DB", "PUBLIC", "orders"⟩ ∧
    ¬ (Model.build (normalize Document.strayOrders) ⟨"DB", "PUBLIC", "orders"⟩).ColumnsClosed := by
  have valid : (Document.validate Document.strayOrders).isValid = true := by decide
  have form := Document.DocumentForm.of_findings (Document.findings_of_isValid valid)
  have resolved : Compile.resolveView (normalize Document.strayOrders)
      ⟨some "orders", some "DB", some "PUBLIC", none, ⟨0⟩⟩ = .ok ⟨"DB", "PUBLIC", "orders"⟩ := by decide
  obtain ⟨b, compiled⟩ := Compile.bundle_isOk resolved (by decide)
  refine ⟨b, Document.loadValid_ok.mpr ⟨_, rfl, valid, rfl⟩, compiled, resolved, ?_⟩
  rw [Model.columnsClosed_iff form.wellFormed]
  intro shown
  have declared : Document.placedOrder ∈ Document.strayOrders.items "objects" := List.mem_cons_self
  have member := form.objects_perm.mem_iff.mpr (List.mem_map_of_mem declared)
  have related := form.complete.relationships.mem_iff.mpr (List.mem_map_of_mem
    (List.mem_singleton_self (Document.placedBy "buyer")))
  have keyed : ("buyer", "id") ∈ (Normalize.relationship (Document.placedBy "buyer")).joinKeys :=
    mem_sortedBy.mpr (List.mem_singleton_self _)
  rcases (shown _ related _ keyed _ member).1 rfl with held | ⟨d, exposed, _⟩
  · exact absurd ((form.hasProperty_iff declared).mp held) (by decide)
  · exact List.not_mem_nil (form.complete.dimensions.mem_iff.mp exposed)

end SemanticLayer
