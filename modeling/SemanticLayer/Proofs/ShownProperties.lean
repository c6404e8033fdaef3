import SemanticLayer.Proofs.ExposedDimensions
import SemanticLayer.Proofs.WrittenWords

/-! How the tables of a model show the objects of a valid document. The columns of a table are in the order of their
names (`columnsOf_increasing`), and each is that of a property which does not identify the object, or was added by a
dimension of the ontology (`mem_columnsOf_cases`). Main statement (`properties_shown_once`): there is a table for each
object, and it shows each property of the object once, in its primary key or under the name of the property. -/
namespace SemanticLayer

/-! ### Columns of a table -/

namespace Model
variable {o : Ontology} {x : Object} {p : Property} {c : Column} {columns : List Column} {view : View}
  {dimensions : List Dimension}

/-- Adding dimensions leaves the columns that are there, and adds none but those of the object's dimensions. -/
theorem mem_foldl_cases (listed : c ∈ dimensions.foldl (addDimension x) columns) :
    c ∈ columns ∨ ∃ d ∈ dimensions, ∃ property, d.source? = some (x.name, property) ∧
      c = columnOfDimension x d property := by
  induction dimensions generalizing columns with
  | nil => exact .inl listed
  | cons d rest ih =>
    rcases ih listed with here | ⟨e, later, added⟩
    · rcases addDimension_cases x columns d with ⟨kept, _⟩ | ⟨property, source, _, extended⟩
      · exact .inl (kept ▸ here)
      · rw [extended, List.mem_append, List.mem_singleton] at here
        exact here.imp_right fun same => ⟨d, List.mem_cons_self, property, source, same⟩
    · exact .inr ⟨e, List.mem_cons_of_mem d later, added⟩

theorem mem_columnsOf_cases (listed : c ∈ columnsOf o x) :
    (∃ p ∈ x.properties, p.name ∉ x.identifiers ∧ c = columnOfProperty p) ∨
    ∃ d ∈ o.dimensions, ∃ property, d.source? = some (x.name, property) ∧ c = columnOfDimension x d property := by
  rcases mem_foldl_cases ((columnsOf_perm o x).mem_iff.mp listed) with own | added
  · obtain ⟨p, kept, rfl⟩ := List.mem_map.mp own
    obtain ⟨held, other⟩ := List.mem_filter.mp kept
    exact .inl ⟨p, held, by simpa using other, rfl⟩
  · exact .inr added

/-- No two columns have the same name, so putting them in order makes the names increase. -/
theorem columnsOf_increasing (distinct : (x.properties.map Property.name).Nodup) :
    Increasing Column.name (columnsOf o x) := by
  have sorted := @List.pairwise_mergeSort Column (fun a b => textLe a.name b.name) (fun _ _ _ => textLe_trans)
    (fun a b => textLe_total a.name b.name) (o.dimensions.foldl (addDimension x) (propertyColumns x))
  have apart : (columnsOf o x).Pairwise fun a b => a.name ≠ b.name :=
    List.pairwise_map.mp (columnsOf_nodup distinct)
  rw [Increasing, List.pairwise_map]
  exact sorted.imp₂ (fun _ _ le different => lt_of_le_of_ne (textLe_iff.mp le) different) apart

theorem only_column (distinct : (x.properties.map Property.name).Nodup) (held : p ∈ x.properties)
    (other : p.name ∉ x.identifiers) : (columnsOf o x).filter (·.name = p.name) = [columnOfProperty p] :=
  filter_name_of_mem (columnsOf_nodup distinct) (columnOfProperty_mem held other)

theorem primaryKey_eq_none : (tableOf o view x).primaryKey = none ↔ x.identifiers = [] := by
  simp [tableOf]

theorem primaryKey_eq_some {key : List String} (keyed : (tableOf o view x).primaryKey = some key) :
    key = x.identifiers := by
  simp only [tableOf] at keyed
  split at keyed
  · cases keyed
  · exact (Option.some.inj keyed).symm

end Model

/-! ### Objects of a valid document -/

namespace Document

/-- A table shows an object of a document. Its primary key has each identifier once; each other property has the only
column of its name; and any other column is for a dimension that exposes a property of the object. -/
structure ShownAs (root object : Json) (t : LogicalTable) : Prop where
  name : object.text? "name" = some t.name
  sorted : (t.dimensions.map Column.name).Pairwise (· < ·)
  keyless : t.primaryKey = none ↔ object.texts "identifiers" = []
  key : ∀ key, t.primaryKey = some key → key.Nodup ∧ ∀ id, id ∈ key ↔ id ∈ object.texts "identifiers"
  properties : ∀ p ∈ object.items "properties", ∃ name type, p.text? "name" = some name ∧
    (p.text? "type").bind PropertyType.parse? = some type ∧
    (name ∉ object.texts "identifiers" → ∃ column, t.dimensions.filter (·.name = name) = [column] ∧
      column.expr = name ∧ column.dataType = type.warehouseType)
  others : ∀ column ∈ t.dimensions,
    (∃ p ∈ object.items "properties", p.text? "name" = some column.name ∧
      column.name ∉ object.texts "identifiers") ∨
    ∃ v ∈ root.items "dimensions", v.text? "name" = some column.name ∧
      (v.text? "sourceProperty").bind splitReference? = some (t.name, column.expr)

namespace DocumentForm
variable {root x p : Json}

theorem shownAs (form : DocumentForm root) (view : View) (listed : x ∈ root.items "objects") :
    ShownAs root x (Model.tableOf (normalize root) view (Normalize.object x)) := by
  have member : Normalize.object x ∈ (normalize root).objects :=
    form.objects_perm.mem_iff.mpr (List.mem_map_of_mem listed)
  have distinct := (form.wellFormed.properties _ member).distinct
  have name := (form.objects_named x listed).textOr
  have identifiers : (Normalize.object x).identifiers = textSet (x.texts "identifiers") := rfl
  refine ⟨name, Model.columnsOf_increasing distinct, ?_, ?_, ?_, ?_⟩
  · rw [Model.primaryKey_eq_none, identifiers]
    simp only [List.eq_nil_iff_forall_not_mem, mem_textSet]
  · intro key keyed
    rw [Model.primaryKey_eq_some keyed, identifiers]
    exact ⟨(textSet_increasing _).imp ne_of_lt, fun id => mem_textSet⟩
  · intro p held
    obtain ⟨type, typed⟩ := form.typed listed held
    have named := (form.properties_named listed p held).textOr
    refine ⟨_, type, named, typed, fun other => ?_⟩
    have made : Normalize.property p ∈ (Normalize.object x).properties :=
      (form.properties_perm listed).mem_iff.mpr (List.mem_map_of_mem held)
    refine ⟨_, Model.only_column distinct made (by rwa [identifiers, mem_textSet]), rfl, ?_⟩
    rw [Model.columnOfProperty, Normalize.property, typed, Option.getD_some]
  · intro column shown
    rcases Model.mem_columnsOf_cases shown with ⟨q, made, other, rfl⟩ | ⟨d, made, property, source, rfl⟩
    · obtain ⟨p, held, rfl⟩ := made_of_mem (form.properties_perm listed) made
      rw [identifiers, mem_textSet] at other
      exact .inl ⟨p, held, (form.properties_named listed p held).textOr, other⟩
    · obtain ⟨v, declared, rfl⟩ := made_of_mem form.complete.dimensions made
      obtain ⟨text, found, _⟩ := (form.dimensions.items v declared).reference
      refine .inr ⟨v, declared, (form.dimensions_named v declared).textOr, ?_⟩
      have read : splitReference? text = (Normalize.dimension v).source? :=
        congrArg splitReference? (textOr_eq found).symm
      rw [found, Option.bind_some]
      exact read.trans source

end DocumentForm
end Document

open Document

/-- The model of a valid document for a view has one table for each object, which shows each property once. -/
theorem properties_shown_once {root : Json} (valid : (validate root).isValid = true) (view : View) :
    EachReads (ShownAs root) (root.items "objects") (Model.build (normalize root) view).tables := by
  have form := DocumentForm.of_findings (findings_of_isValid valid)
  have tables := form.objects_perm.map (Model.tableOf (normalize root) view)
  rw [List.map_map] at tables
  exact EachReads.of_perm tables fun _ listed => form.shownAs view listed

/-- Orders for which the same identifier is listed twice. -/
def Document.twiceKeyedOrder : Json :=
  .obj [("identifiers", .arr [.str "id", .str "id"]), ("name", .str "Order"),
    ("properties", .arr [textProperty "status", textProperty "id", textProperty "region"])]

/-- Such orders, the region of which is a dimension under the name of the identifier. -/
def Document.twiceKeyedOrders : Json :=
  .obj [("dimensions", .arr [regionAs "id"]), ("objects", .arr [twiceKeyedOrder]), ("version", .str "1.0.0")]

theorem twice_keyed_orders_shown : (validate twiceKeyedOrders).isValid = true ∧
    ∃ table ∈ (Model.build (normalize twiceKeyedOrders) ⟨"DB", "PUBLIC", "orders"⟩).tables, table.name = "Order" ∧
      (∃ key, table.primaryKey = some key ∧ key.count "id" = 1) ∧
      ∃ column, table.dimensions.filter (·.name = "status") = [column] ∧ column.expr = "status" := by
  have valid : (validate twiceKeyedOrders).isValid = true := by decide
  have all := properties_shown_once valid ⟨"DB", "PUBLIC", "orders"⟩
  obtain ⟨table, built, shown⟩ := all.exists_of_mem twiceKeyedOrder (List.mem_singleton_self _)
  have keyed : table.primaryKey ≠ none := mt shown.keyless.mp (by decide)
  obtain ⟨key, some⟩ := Option.ne_none_iff_exists'.mp keyed
  obtain ⟨once, mem⟩ := shown.key key some
  obtain ⟨_, _, named, _, own⟩ := shown.properties (textProperty "status") (.head _)
  cases named
  obtain ⟨column, only, expr, _⟩ := own (by decide)
  refine ⟨valid, table, built, (Option.some.inj shown.name).symm, ⟨key, some, ?_⟩, column, only, expr⟩
  exact List.count_eq_one_of_mem once ((mem "id").mpr (by decide))

end SemanticLayer
