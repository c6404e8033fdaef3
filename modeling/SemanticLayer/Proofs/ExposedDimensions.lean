import SemanticLayer.Proofs.ModelColumns
import SemanticLayer.Proofs.WellFormed

/-! Where the dimensions of a document are in its model. The properties of an object that do not identify it have
columns before any dimension is added, so a dimension that has the name of another such property leaves no column
of its own; every other one has, with the property and its type. Main statement: `dimensions_exposed`. -/
namespace SemanticLayer

/-- The object has another property of the name, which does not identify it. -/
def Object.Shadows (x : Object) (name property : String) : Prop :=
  name ≠ property ∧ x.hasProperty name = true ∧ name ∉ x.identifiers

/-! ### Columns that a dimension adds -/

namespace Model
variable {o : Ontology} {x : Object} {d : Dimension} {p : Property} {c : Column} {columns : List Column}
  {dimensions : List Dimension} {property : String}

theorem nodup_foldl_addDimension (distinct : (columns.map Column.name).Nodup) :
    ((dimensions.foldl (addDimension x) columns).map Column.name).Nodup := by
  induction dimensions generalizing columns with
  | nil => exact distinct
  | cons d rest ih =>
    rw [List.foldl_cons]
    refine ih ?_
    rcases addDimension_cases x columns d with ⟨kept, _⟩ | ⟨property, _, free, added⟩
    · rwa [kept]
    · rw [added, List.map_append]
      exact distinct.append (List.nodup_singleton _) (List.disjoint_singleton.mpr free)

theorem mem_foldl_of_mem (member : c ∈ columns) : c ∈ dimensions.foldl (addDimension x) columns := by
  induction dimensions generalizing columns with
  | nil => exact member
  | cons d rest ih =>
    rw [List.foldl_cons]
    refine ih ?_
    rcases addDimension_cases x columns d with ⟨kept, _⟩ | ⟨property, _, _, added⟩
    · rwa [kept]
    · rw [added]
      exact List.mem_append_left _ member

/-- Of dimensions with distinct names none takes the name of another, so each one adds its column if no column
has its name before. -/
theorem columnOfDimension_mem_foldl (distinct : (dimensions.map Dimension.name).Nodup) (declared : d ∈ dimensions)
    (source : d.source? = some (x.name, property)) (free : d.name ∉ columns.map Column.name) :
    columnOfDimension x d property ∈ dimensions.foldl (addDimension x) columns := by
  induction dimensions generalizing columns with
  | nil => cases declared
  | cons e rest ih =>
    obtain ⟨fresh, others⟩ := List.nodup_cons.mp distinct
    rw [List.foldl_cons]
    rcases List.mem_cons.mp declared with rfl | later
    · rcases addDimension_cases x columns d with ⟨_, taken⟩ | ⟨_, same, _, added⟩
      · exact absurd (taken ⟨property, source⟩) free
      · cases source.symm.trans same
        rw [added]
        exact mem_foldl_of_mem (List.mem_append_right _ (List.mem_singleton_self _))
    · refine ih others later fun listed => ?_
      rcases mem_addDimension.mp listed with old | ⟨same, _⟩
      · exact free old
      · exact fresh (same ▸ List.mem_map_of_mem later)

theorem columnsOf_nodup (properties : (x.properties.map Property.name).Nodup) :
    ((columnsOf o x).map Column.name).Nodup := by
  rw [((columnsOf_perm o x).map Column.name).nodup_iff]
  refine nodup_foldl_addDimension ?_
  have names : (propertyColumns x).map Column.name =
      (x.properties.filter fun p => !x.identifiers.contains p.name).map Property.name := List.map_map
  rw [names]
  exact properties.sublist (List.filter_sublist.map _)

theorem columnOfProperty_mem (held : p ∈ x.properties) (other : p.name ∉ x.identifiers) :
    columnOfProperty p ∈ columnsOf o x := by
  refine (columnsOf_perm o x).mem_iff.mpr (mem_foldl_of_mem (List.mem_map_of_mem ?_))
  exact List.mem_filter.mpr ⟨held, by simpa using other⟩

theorem columnOfDimension_mem (distinct : (o.dimensions.map Dimension.name).Nodup) (declared : d ∈ o.dimensions)
    (source : d.source? = some (x.name, property))
    (free : ¬ (x.hasProperty d.name = true ∧ d.name ∉ x.identifiers)) :
    columnOfDimension x d property ∈ columnsOf o x :=
  (columnsOf_perm o x).mem_iff.mpr
    (columnOfDimension_mem_foldl distinct declared source (mt mem_propertyColumns.mp free))

/-- An object has one column under the name of a dimension that exposes a property of it: that of another property
which takes the name, and else one for the property that is exposed. -/
theorem exposed_column (wellFormed : o.WellFormed) (member : x ∈ o.objects) (declared : d ∈ o.dimensions)
    (source : d.source? = some (x.name, p.name)) (held : p ∈ x.properties) :
    ∃ c, (columnsOf o x).filter (·.name = d.name) = [c] ∧
      (¬ x.Shadows d.name p.name → c.expr = p.name ∧ c.dataType = p.type.warehouseType) ∧
      (x.Shadows d.name p.name → c.expr = d.name) := by
  have properties := (wellFormed.properties x member).distinct
  have found : x.property? p.name = some p := find?_name_of_mem properties held
  have only {c : Column} (listed : c ∈ columnsOf o x) : (columnsOf o x).filter (·.name = c.name) = [c] :=
    filter_name_of_mem (columnsOf_nodup properties) listed
  by_cases taken : x.hasProperty d.name = true ∧ d.name ∉ x.identifiers
  · obtain ⟨q, named⟩ := Option.isSome_iff_exists.mp taken.1
    obtain ⟨heldToo, same⟩ := find?_name named
    refine ⟨columnOfProperty q, ?_, fun unshadowed => ?_, fun _ => same⟩
    · rw [← same]
      exact only (columnOfProperty_mem heldToo (same ▸ taken.2))
    · -- Then the column is that of the property itself.
      have own : d.name = p.name := not_not.mp fun different => unshadowed ⟨different, taken⟩
      rw [own] at named
      cases found.symm.trans named
      exact ⟨rfl, rfl⟩
  · have added := columnOfDimension_mem wellFormed.dimensions.distinct declared source taken
    refine ⟨_, only added, fun _ => ⟨rfl, ?_⟩, fun shadowed => absurd shadowed.2 taken⟩
    rw [columnOfDimension, found]
    rfl

theorem only_table (wellFormed : o.WellFormed) (member : x ∈ o.objects) (view : View) :
    (build o view).tables.filter (·.name = x.name) = [tableOf o view x] := by
  have names : (build o view).tables.map LogicalTable.name = o.objectNames := List.map_map
  have distinct : ((build o view).tables.map LogicalTable.name).Nodup := names ▸ wellFormed.objects.distinct
  exact filter_name_of_mem distinct (List.mem_map_of_mem member)

end Model

/-! ### Dimensions of a valid document -/

namespace Document

/-- The object declares another property of the name, which does not identify it. -/
def Shadows (object : Json) (name property : String) : Prop :=
  name ≠ property ∧ name ∈ namesIn (object.items "properties") ∧ name ∉ object.texts "identifiers"

instance (object : Json) (name property : String) : Decidable (Shadows object name property) :=
  inferInstanceAs (Decidable (_ ∧ _ ∧ _))

namespace DocumentForm
variable {root v x p : Json} {name object property : String} {type : PropertyType}

theorem shadows_iff (form : DocumentForm root) (listed : x ∈ root.items "objects") :
    (Normalize.object x).Shadows name property ↔ Shadows x name property := by
  rw [Object.Shadows, Shadows, form.hasProperty_iff listed,
    show (Normalize.object x).identifiers = textSet (x.texts "identifiers") from rfl, mem_textSet]

theorem typed (form : DocumentForm root) (listed : x ∈ root.items "objects") (held : p ∈ x.items "properties") :
    ∃ type, (p.text? "type").bind PropertyType.parse? = some type := by
  obtain ⟨word, written⟩ := ((form.objects_shaped x listed).properties.optional.items p held).type.text
  obtain ⟨type, parsed⟩ := Option.isSome_iff_exists.mp ((form.objectRules x listed).types p held word written)
  exact ⟨type, Option.bind_eq_some_iff.mpr ⟨word, written, parsed⟩⟩

theorem exposed (form : DocumentForm root) (declared : v ∈ root.items "dimensions") :
    ∃ object property, (v.text? "sourceProperty").bind splitReference? = some (object, property) ∧
      ∃ x ∈ root.items "objects", x.text? "name" = some object ∧
      ∃ p ∈ x.items "properties", p.text? "name" = some property ∧
      ∃ type, (p.text? "type").bind PropertyType.parse? = some type := by
  obtain ⟨source, text, split⟩ := (form.dimensions.items v declared).reference
  obtain ⟨⟨object, property⟩, parts⟩ := Option.isSome_iff_exists.mp split
  obtain ⟨x, listed, named, member⟩ := form.dimensionRules v declared source text object property parts
  obtain ⟨p, held, propertyNamed⟩ := List.mem_filterMap.mp member
  exact ⟨object, property, Option.bind_eq_some_iff.mpr ⟨source, text, parts⟩, x, listed, named, p, held,
    propertyNamed, form.typed listed held⟩

theorem exposed_column (form : DocumentForm root) (view : View) (declared : v ∈ root.items "dimensions")
    (named : v.text? "name" = some name)
    (source : (v.text? "sourceProperty").bind splitReference? = some (object, property))
    (listed : x ∈ root.items "objects") (objectNamed : x.text? "name" = some object)
    (held : p ∈ x.items "properties") (propertyNamed : p.text? "name" = some property)
    (parsed : (p.text? "type").bind PropertyType.parse? = some type) :
    ∃ table, (Model.build (normalize root) view).tables.filter (·.name = object) = [table] ∧
      ∃ column, table.dimensions.filter (·.name = name) = [column] ∧
        (¬ Shadows x name property → column.expr = property ∧ column.dataType = type.warehouseType) ∧
        (Shadows x name property → column.expr = name) := by
  have sameName : (Normalize.dimension v).name = name := textOr_eq named
  have sameObject : (Normalize.object x).name = object := textOr_eq objectNamed
  have sameProperty : (Normalize.property p).name = property := textOr_eq propertyNamed
  have sameType : (Normalize.property p).type = type := by
    rw [Normalize.property, parsed, Option.getD_some]
  have exposes : (Normalize.dimension v).source? =
      some ((Normalize.object x).name, (Normalize.property p).name) := by
    obtain ⟨text, found, parts⟩ := Option.bind_eq_some_iff.mp source
    rw [sameObject, sameProperty, ← parts]
    exact congrArg splitReference? (textOr_eq found)
  have member : Normalize.object x ∈ (normalize root).objects :=
    form.objects_perm.mem_iff.mpr (List.mem_map_of_mem listed)
  obtain ⟨column, only, own, shadowed⟩ := Model.exposed_column form.wellFormed member
    (form.complete.dimensions.mem_iff.mpr (List.mem_map_of_mem declared)) exposes
    ((form.properties_perm listed).mem_iff.mpr (List.mem_map_of_mem held))
  rw [form.shadows_iff listed, sameName, sameProperty] at own shadowed
  rw [sameType] at own
  have table := Model.only_table form.wellFormed member view
  rw [sameObject] at table
  rw [sameName] at only
  exact ⟨_, table, column, only, own, shadowed⟩

end DocumentForm
end Document

open Document

/-- For a dimension of a valid document, the table of its object has one column of its name. It is for the property
that is exposed, with its type, unless the object has another property of the name which does not identify it. -/
theorem dimensions_exposed {root : Json} (valid : (validate root).isValid = true) (view : View) :
    ∀ v ∈ root.items "dimensions", ∃ name object property, v.text? "name" = some name ∧
      (v.text? "sourceProperty").bind splitReference? = some (object, property) ∧
      ∃ x ∈ root.items "objects", x.text? "name" = some object ∧
      ∃ p ∈ x.items "properties", p.text? "name" = some property ∧
      ∃ type, (p.text? "type").bind PropertyType.parse? = some type ∧
      ∃ table, (Model.build (normalize root) view).tables.filter (·.name = object) = [table] ∧
      ∃ column, table.dimensions.filter (·.name = name) = [column] ∧
        (¬ Shadows x name property → column.expr = property ∧ column.dataType = type.warehouseType) ∧
        (Shadows x name property → column.expr = name) := by
  intro v declared
  have form := DocumentForm.of_findings (findings_of_isValid valid)
  obtain ⟨name, named⟩ := (form.dimensions_named v declared).text
  obtain ⟨object, property, source, x, listed, objectNamed, p, held, propertyNamed, type, parsed⟩ :=
    form.exposed declared
  exact ⟨name, object, property, named, source, x, listed, objectNamed, p, held, propertyNamed, type, parsed,
    form.exposed_column view declared named source listed objectNamed held propertyNamed parsed⟩

/-- A property of text. -/
def Document.textProperty (name : String) : Json := .obj [("name", .str name), ("type", .str "string")]

/-- Orders of regions. -/
def Document.regionalOrder : Json :=
  .obj [("identifiers", .arr [.str "id"]), ("name", .str "Order"),
    ("properties", .arr [textProperty "id", textProperty "status", textProperty "region"])]

/-- The region of orders under a name. -/
def Document.regionAs (name : String) : Json :=
  .obj [("name", .str name), ("sourceProperty", .str "Order.region")]

/-- Orders, the region of which is a dimension of the name. -/
def Document.regionalOrders (name : String) : Json :=
  .obj [("dimensions", .arr [regionAs name]), ("objects", .arr [regionalOrder]), ("version", .str "1.0.0")]

theorem area_of_orders_exposed : (validate (regionalOrders "area")).isValid = true ∧
    ∃ table ∈ (Model.build (normalize (regionalOrders "area")) ⟨"DB", "PUBLIC", "orders"⟩).tables,
      table.name = "Order" ∧ ∃ column ∈ table.dimensions, column.name = "area" ∧ column.expr = "region" ∧
        column.dataType = "VARCHAR" := by
  have valid : (validate (regionalOrders "area")).isValid = true := by decide
  obtain ⟨_, _, _, ⟨⟩, source, x, listed, _, p, held, _, type, parsed, table, here, column, there, own, _⟩ :=
    dimensions_exposed valid ⟨"DB", "PUBLIC", "orders"⟩ (regionAs "area") (List.mem_singleton_self _)
  have split : some ("Order", "region") = some _ := source
  cases split
  cases List.mem_singleton.mp listed
  obtain ⟨tableListed, tableNamed⟩ := (only_bearer here).mpr rfl
  obtain ⟨columnListed, columnNamed⟩ := (only_bearer there).mpr rfl
  obtain ⟨expr, dataType⟩ := own (by decide)
  have text : type.warehouseType = "VARCHAR" := by
    have typed : ∀ p ∈ regionalOrder.items "properties",
        (p.text? "type").bind PropertyType.parse? = some .string := by
      show ∀ p ∈ ["id", "status", "region"].map textProperty, _
      exact List.forall_mem_map.mpr (by decide)
    cases (typed p held).symm.trans parsed
    rfl
  exact ⟨valid, table, tableListed, tableNamed, column, columnListed, columnNamed, expr, dataType.trans text⟩

/-- The dimension has the name of another property, so there is no column of its name for the property that it
exposes. -/
theorem region_of_orders_shadowed : (validate (regionalOrders "status")).isValid = true ∧
    regionAs "status" ∈ (regionalOrders "status").items "dimensions" ∧
    ¬ ∃ table ∈ (Model.build (normalize (regionalOrders "status")) ⟨"DB", "PUBLIC", "orders"⟩).tables,
      table.name = "Order" ∧ ∃ column ∈ table.dimensions, column.name = "status" ∧ column.expr = "region" := by
  have valid : (validate (regionalOrders "status")).isValid = true := by decide
  have form := DocumentForm.of_findings (findings_of_isValid valid)
  have declared : regionAs "status" ∈ (regionalOrders "status").items "dimensions" := List.mem_singleton_self _
  have source : ((regionAs "status").text? "sourceProperty").bind splitReference? = some ("Order", "region") := by
    decide
  have parsed : ((textProperty "region").text? "type").bind PropertyType.parse? = some .string := by decide
  obtain ⟨table, here, column, there, _, shadowed⟩ := form.exposed_column ⟨"DB", "PUBLIC", "orders"⟩ declared rfl
    source (x := regionalOrder) (List.mem_singleton_self _) rfl (p := textProperty "region")
    (.tail _ (.tail _ (.head _))) rfl parsed
  have expr : column.expr = "status" := shadowed (by decide)
  refine ⟨valid, declared, ?_⟩
  rintro ⟨other, listed, named, _, columnListed, columnNamed, region⟩
  cases (only_bearer here).mp ⟨listed, named⟩
  cases (only_bearer there).mp ⟨columnListed, columnNamed⟩
  exact absurd (expr.symm.trans region) (by decide)

end SemanticLayer
