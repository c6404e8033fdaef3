import SemanticLayer.Proofs.ColumnAccounts
import SemanticLayer.Proofs.DeclaredPlace
import SemanticLayer.Ontology.Normalize
import SemanticLayer.Proofs.TextOrder

/-! Where the search for differences looks for the tables of a document that compiles. Both the search and the
compiled model take what an object leaves open from somewhere else, each in an order of its own. They come to the
same place for every object but those with an empty name of their own for the database or the schema: such a name
is none, yet it hides that of the mapping from the search, which then has only the configured one
(`looked_up_where_compiled`, `emptied_orders_unresolved`). No document has such objects. -/
namespace SemanticLayer.Drift
variable {ontology : Ontology} {options : DriftOptions} {provider : Provider} {c : Config} {time : Instant}
  {view : View} {o : Object} {place : BaseTable} {e : DriftEvent}

/-! ### What is asked of a warehouse -/

/-- Where the search looks for the table of an object, if it knows a place. -/
def lookedUp? (ontology : Ontology) (options : DriftOptions) (o : Object) : Option BaseTable := do
  return ⟨← ontology.physicalDatabase? o <|> options.database,
    ← ontology.physicalSchema? o <|> options.schema, ontology.physicalTable o⟩

/-- What is reported of an object from what is said of its table. -/
def reported (o : Object) (place : BaseTable) : Option LiveTable → List DriftEvent
  | none => [tableMissing o place.database place.schema place.table]
  | some live => columnDrift o place.table live

/-- For the object, a warehouse is asked for the table of this place, and for nothing else. -/
def AsksFor (ontology : Ontology) (options : DriftOptions) (o : Object) (place : BaseTable) : Prop :=
  ∀ provider : Provider, objectDrift ontology provider options.database options.schema o =
    (provider.table? place.database place.schema place.table).map (reported o place)

theorem objectDrift_eq : objectDrift ontology provider options.database options.schema o =
    match lookedUp? ontology options o with
    | none => .ok [unresolved o (ontology.physicalTable o)]
    | some place => (provider.table? place.database place.schema place.table).map (reported o place) := by
  unfold objectDrift lookedUp?
  cases ontology.physicalDatabase? o <|> options.database with
  | none => rfl
  | some database =>
    cases ontology.physicalSchema? o <|> options.schema with
    | none => rfl
    | some schema =>
      dsimp only [Option.bind_eq_bind, Option.bind_some, pure]
      cases provider.table? database schema (ontology.physicalTable o) with
      | error e => rfl
      | ok found => cases found <;> rfl

/-- A warehouse in which nothing can be said of one table. -/
def silentAbout (place : BaseTable) : Provider where
  name := ""
  table? database schema table :=
    if ⟨database, schema, table⟩ = place then .error (.unavailable "") else .ok none
  view? _ _ _ := .ok none

/-- What is asked for is the place that is looked up, as a warehouse shows that cannot answer for it alone. -/
theorem asksFor_iff : AsksFor ontology options o place ↔ lookedUp? ontology options o = some place := by
  constructor
  · intro asks
    have fails := asks (silentAbout place)
    rw [objectDrift_eq] at fails
    have silent : (silentAbout place).table? place.database place.schema place.table =
        .error (.unavailable "") := if_pos rfl
    rw [silent] at fails
    cases there : lookedUp? ontology options o with
    | none => simp [there, Except.map] at fails
    | some other =>
      by_contra different
      have answered : (silentAbout place).table? other.database other.schema other.table = .ok none :=
        if_neg fun same => different (congrArg some same)
      simp [there, answered, Except.map] at fails
  · intro there provider
    rw [objectDrift_eq, there]

/-! ### What is reported -/

theorem verdict_kind (o : Object) (table : String) (p : Property) (verdict : Verdict) :
    (verdict.event o table p).kind ≠ .tableMissing := by
  cases verdict <;> nofun

theorem columnDrift_kind {table : String} {live : LiveTable} (listed : e ∈ columnDrift o table live) :
    e.kind ≠ .tableMissing := by
  obtain ⟨verdicts, _, run⟩ := columnDrift_eq o table live
  rw [run, ← List.map_uncurry_zip_eq_zipWith] at listed
  rcases List.mem_append.mp listed with ofProperty | ofColumn
  · obtain ⟨⟨p, verdict⟩, _, rfl⟩ := List.mem_map.mp ofProperty
    exact verdict_kind o table p verdict
  · obtain ⟨column, _, rfl⟩ := List.mem_map.mp ofColumn
    nofun

/-- Where a place is known, no object is reported for want of a place. -/
theorem reported_ne_unresolved {found : Option LiveTable} (listed : e ∈ reported o place found) (x : Object)
    (table : String) : e ≠ unresolved x table := by
  cases found with
  | none =>
    rintro rfl
    simp [reported, unresolved, tableMissing] at listed
  | some live => exact fun same => columnDrift_kind listed (congrArg DriftEvent.kind same)

/-- A warehouse that answers every question about a table. -/
def Answers (provider : Provider) (answers : String → String → String → Option LiveTable) : Prop :=
  ∀ database schema table, provider.table? database schema table = .ok (answers database schema table)

/-- What is reported of an object by a warehouse with these answers. -/
def reportOn (ontology : Ontology) (options : DriftOptions)
    (answers : String → String → String → Option LiveTable) (o : Object) : List DriftEvent :=
  match lookedUp? ontology options o with
  | none => [unresolved o (ontology.physicalTable o)]
  | some place => reported o place (answers place.database place.schema place.table)

theorem mappingDrift_answered {answers : String → String → String → Option LiveTable}
    (answered : Answers provider answers) :
    mappingDrift ontology provider options.database options.schema =
      .ok (ontology.objects.flatMap (reportOn ontology options answers)) := by
  have each (o : Object) : objectDrift ontology provider options.database options.schema o =
      pure (reportOn ontology options answers o) := by
    rw [objectDrift_eq, reportOn]
    cases lookedUp? ontology options o with
    | none => rfl
    | some place =>
      dsimp only
      rw [answered]
      rfl
  unfold mappingDrift
  rw [funext each, List.mapM_pure]
  rfl

/-! ### Two ways to a place -/

/-- An empty name of an object's own, for its database or its schema, needs a configured one beside it. -/
structure Placeable (c : Config) (o : Object) : Prop where
  database : o.database = some "" → (Text.nonBlank? c.database).isSome
  schema : o.schema = some "" → (Text.nonBlank? c.schema).isSome

section Names
variable {own mapped configured : Option String} {place : String}

/-- The search takes what is configured where the model takes the place of its view. These are the same. -/
theorem found_name (resolves : (configured <|> mapped.bind Text.nonBlank?) = some place)
    (placed : own = some "" → configured.isSome) :
    ((own <|> mapped).bind Text.unlessEmpty <|> configured) =
      some (((own <|> mapped).bind Text.unlessEmpty).getD place) := by
  cases configured with
  | some name =>
    cases resolves
    cases (own <|> mapped).bind Text.unlessEmpty <;> rfl
  | none =>
    obtain ⟨name, rfl, shown⟩ : ∃ name, mapped = some name ∧ Text.nonBlank? name = some place :=
      Option.bind_eq_some_iff.mp resolves
    cases own with
    | none =>
      have nonempty : name ≠ "" := by
        rintro rfl
        exact nomatch (show Text.nonBlank? "" = none by decide).symm.trans shown
      simp [Text.unlessEmpty, nonempty]
    | some text =>
      have nonempty : text ≠ "" := fun empty => nomatch placed (congrArg some empty)
      simp [Text.unlessEmpty, nonempty]

/-- An empty name hides that of the mapping, and if nothing is configured, there is none. -/
theorem hidden_name (unplaced : ¬ (own = some "" → configured.isSome)) :
    ((own <|> mapped).bind Text.unlessEmpty <|> configured) = none := by
  obtain ⟨rfl, unset⟩ := Classical.not_imp.mp unplaced
  rw [Option.not_isSome_iff_eq_none.mp unset]
  rfl

end Names

theorem declared?_eq (field : Mapping → String) :
    ontology.declared? field = (ontology.mapping.map field).bind Text.nonBlank? := by
  cases mapped : ontology.mapping <;> simp [Ontology.declared?, mapped]

theorem physicalDatabase?_eq : ontology.physicalDatabase? o =
    (o.database <|> ontology.mapping.map Mapping.database).bind Text.unlessEmpty := rfl

theorem physicalSchema?_eq : ontology.physicalSchema? o =
    (o.schema <|> ontology.mapping.map Mapping.schema).bind Text.unlessEmpty := rfl

theorem lookedUp?_placed (resolves : Compile.resolveView ontology (c.compileOptions time) = .ok view)
    (placed : Placeable c o) :
    lookedUp? ontology c.driftOptions o = some (Model.tableOf ontology view o).base := by
  obtain ⟨database, schema, -⟩ := Compile.resolveView_configured.mp resolves
  rw [declared?_eq] at database schema
  have inDatabase := found_name database placed.database
  have inSchema := found_name schema placed.schema
  rw [← physicalDatabase?_eq] at inDatabase
  rw [← physicalSchema?_eq] at inSchema
  simp only [lookedUp?, Config.driftOptions, inDatabase, inSchema]
  rfl

theorem lookedUp?_unplaced (unplaced : ¬ Placeable c o) : lookedUp? ontology c.driftOptions o = none := by
  simp only [lookedUp?, Config.driftOptions, physicalDatabase?_eq, physicalSchema?_eq]
  by_cases placed : o.database = some "" → (Text.nonBlank? c.database).isSome
  · rw [hidden_name fun placedToo => unplaced ⟨placed, placedToo⟩]
    cases (o.database <|> ontology.mapping.map Mapping.database).bind Text.unlessEmpty <|>
      Text.nonBlank? c.database <;> rfl
  · rw [hidden_name placed]
    rfl

theorem asksFor_base_iff (resolves : Compile.resolveView ontology (c.compileOptions time) = .ok view)
    (o : Object) : AsksFor ontology c.driftOptions o (Model.tableOf ontology view o).base ↔ Placeable c o := by
  rw [asksFor_iff]
  constructor
  · intro there
    by_contra unplaced
    exact nomatch there.symm.trans (lookedUp?_unplaced unplaced)
  · exact lookedUp?_placed resolves

/-- Names of their own that objects of a document have are never empty. -/
theorem placeable_of_document {root : Json} (listed : o ∈ (normalize root).objects) : Placeable c o := by
  obtain ⟨raw, _, rfl⟩ := List.mem_map.mp (mem_sortedBy.mp listed)
  have nonempty (key : String) : raw.nonEmptyText? key ≠ some "" := by
    intro empty
    obtain ⟨text, _, shown⟩ := Option.bind_eq_some_iff.mp empty
    simp [Text.unlessEmpty] at shown
  exact ⟨fun empty => absurd empty (nonempty "database"), fun empty => absurd empty (nonempty "schema")⟩

theorem unresolved_iff {answers : String → String → String → Option LiveTable}
    (resolves : Compile.resolveView ontology (c.compileOptions time) = .ok view) :
    (∃ x table, unresolved x table ∈ ontology.objects.flatMap (reportOn ontology c.driftOptions answers)) ↔
      ∃ o ∈ ontology.objects, ¬ Placeable c o := by
  constructor
  · rintro ⟨x, table, listed⟩
    obtain ⟨o, declared, listed⟩ := List.mem_flatMap.mp listed
    refine ⟨o, declared, fun placed => ?_⟩
    rw [reportOn, lookedUp?_placed resolves placed] at listed
    exact reported_ne_unresolved listed x table rfl
  · rintro ⟨o, declared, unplaced⟩
    refine ⟨o, ontology.physicalTable o, List.mem_flatMap.mpr ⟨o, declared, ?_⟩⟩
    rw [reportOn, lookedUp?_unplaced unplaced]
    exact List.mem_singleton_self _

/-- If a document compiles, its objects and the tables of its model are looked up together: for an object, the
warehouse is asked for the base table of its table and for nothing else, unless an empty name of the object hides
that of the mapping. Where every question is answered, the objects for which that is so are reported as without
a place, and no others; objects that a document declares are not among them. -/
theorem looked_up_where_compiled (ontology : Ontology) (c : Config) (time : Instant) (view : View)
    (resolves : Compile.resolveView ontology (c.compileOptions time) = .ok view) :
    List.Forall₂ (fun o t => AsksFor ontology c.driftOptions o t.base ↔ Placeable c o)
      ontology.objects (Model.build ontology view).tables ∧
    (∀ (provider : Provider) (answers : String → String → String → Option LiveTable),
      Answers provider answers → ∃ events,
        mappingDrift ontology provider c.driftOptions.database c.driftOptions.schema = .ok events ∧
        ((∃ o table, unresolved o table ∈ events) ↔ ∃ o ∈ ontology.objects, ¬ Placeable c o)) ∧
    ∀ root, ontology = normalize root → ∀ o ∈ ontology.objects, Placeable c o := by
  refine ⟨?_, ?_, ?_⟩
  · have tables : (Model.build ontology view).tables = ontology.objects.map (Model.tableOf ontology view) := rfl
    rw [tables, List.forall₂_map_right_iff]
    exact List.forall₂_same.mpr fun o _ => asksFor_base_iff resolves o
  · intro provider answers answered
    exact ⟨_, mappingDrift_answered answered, unresolved_iff resolves⟩
  · rintro root rfl o declared
    exact placeable_of_document declared

/-- Orders with an empty name for their database, in an ontology that has a place. -/
def emptiedOrder : Object :=
  ⟨"Order", "", ["id"], [⟨"id", .integer, "", false, true⟩], none, none, some ""⟩

def emptiedOrders : Ontology := { placedOrders with objects := [emptiedOrder] }

/-- The orders where the ontology has its place. -/
def salesWarehouse : Provider :=
  (Catalog.empty.addTable ⟨"SALES", "PUBLIC", "order", [⟨"id", "NUMBER", false⟩]⟩).provider

/-- With a configured database, the orders are looked up where their model points. -/
theorem scratched_orders_looked_up :
    Compile.resolveView emptiedOrders ((scratchConfig "SCRATCH").compileOptions ⟨0⟩) =
      .ok ⟨"SCRATCH", "PUBLIC", "sales_semantic_view"⟩ ∧
    AsksFor emptiedOrders (scratchConfig "SCRATCH").driftOptions emptiedOrder ⟨"SCRATCH", "PUBLIC", "order"⟩ ∧
    ∃ events, mappingDrift emptiedOrders salesWarehouse (some "SCRATCH") none = .ok events ∧
      ∀ o table, unresolved o table ∉ events := by
  have resolves : Compile.resolveView emptiedOrders ((scratchConfig "SCRATCH").compileOptions ⟨0⟩) =
      .ok ⟨"SCRATCH", "PUBLIC", "sales_semantic_view"⟩ := Compile.resolveView_configured.mpr (by decide)
  obtain ⟨asked, answered, -⟩ :=
    looked_up_where_compiled emptiedOrders (scratchConfig "SCRATCH") ⟨0⟩ _ resolves
  have placed : Placeable (scratchConfig "SCRATCH") emptiedOrder := ⟨fun _ => by decide, nofun⟩
  refine ⟨resolves, (List.forall₂_cons.mp asked).1.mpr placed, ?_⟩
  obtain ⟨events, reports, unresolved_iff⟩ := answered salesWarehouse _ fun _ _ _ => rfl
  refine ⟨events, reports, fun o table listed => ?_⟩
  obtain ⟨o, declared, unplaced⟩ := unresolved_iff.mp ⟨o, table, listed⟩
  rw [List.mem_singleton.mp declared] at unplaced
  exact unplaced placed

/-- Without one, the model of the orders points to the place of the ontology, where they are; but they are
reported as without a place. -/
theorem emptied_orders_unresolved :
    Compile.resolveView emptiedOrders (Config.default.compileOptions ⟨0⟩) =
      .ok ⟨"SALES", "PUBLIC", "sales_semantic_view"⟩ ∧
    (Model.build emptiedOrders ⟨"SALES", "PUBLIC", "sales_semantic_view"⟩).tables.map (·.base) =
      [⟨"SALES", "PUBLIC", "order"⟩] ∧
    (∃ table, salesWarehouse.table? "SALES" "PUBLIC" "order" = .ok (some table)) ∧
    mappingDrift emptiedOrders salesWarehouse Config.default.driftOptions.database
      Config.default.driftOptions.schema = .ok [unresolved emptiedOrder "order"] := by
  refine ⟨Compile.resolveView_configured.mpr (by decide), by decide, ⟨_, rfl⟩, ?_⟩
  rfl

end SemanticLayer.Drift
