import SemanticLayer.Model.Basic
import SemanticLayer.Proofs.TextOrder

/-! The columns of the table that an object becomes. A property that identifies the object is in the primary key,
and every other one is among the dimensions; a dimension of the ontology adds a column to the object that it
exposes a property of, unless there is one of its name. Main statement (`hasColumn_iff`): the table has a column
under each of these names and under no other. -/
namespace SemanticLayer

/-- The table has a column of the name, in its primary key or as a dimension. -/
def LogicalTable.HasColumn (t : LogicalTable) (column : String) : Prop :=
  (∃ key, t.primaryKey = some key ∧ column ∈ key) ∨ column ∈ t.dimensions.map Column.name

/-- The dimension exposes a property of the object. -/
def Dimension.IsOf (d : Dimension) (x : Object) : Prop := ∃ property, d.source? = some (x.name, property)

/-- The name is that of a property of the object or of a dimension which exposes one. -/
def Ontology.Shows (o : Ontology) (x : Object) (column : String) : Prop :=
  x.hasProperty column = true ∨ ∃ d ∈ o.dimensions, d.name = column ∧ d.IsOf x

namespace Model
variable {o : Ontology} {x : Object} {column : String}

theorem mem_propertyColumns : column ∈ (propertyColumns x).map Column.name ↔
    x.hasProperty column = true ∧ column ∉ x.identifiers := by
  rw [Object.hasProperty, Object.property?, find?_name_isSome, propertyColumns, List.map_map]
  constructor
  · intro listed
    obtain ⟨p, kept, rfl⟩ := List.mem_map.mp listed
    obtain ⟨member, other⟩ := List.mem_filter.mp kept
    refine ⟨List.mem_map_of_mem member, ?_⟩
    simpa [columnOfProperty] using other
  · rintro ⟨held, other⟩
    obtain ⟨p, member, rfl⟩ := List.mem_map.mp held
    exact List.mem_map.mpr ⟨p, List.mem_filter.mpr ⟨member, by simpa using other⟩, rfl⟩

/-- The column that exposes a property of an object as a dimension. -/
def columnOfDimension (x : Object) (d : Dimension) (property : String) : Column :=
  ⟨d.name, property, ((x.property? property).map (·.type.warehouseType)).getD "VARCHAR", d.description⟩

/-- A dimension adds the column that exposes its property, or it is of another object or its name is taken. -/
theorem addDimension_cases (x : Object) (columns : List Column) (d : Dimension) :
    (addDimension x columns d = columns ∧ (d.IsOf x → d.name ∈ columns.map Column.name)) ∨
    ∃ property, d.source? = some (x.name, property) ∧ d.name ∉ columns.map Column.name ∧
      addDimension x columns d = columns ++ [columnOfDimension x d property] := by
  have taken : columns.any (·.name = d.name) = true ↔ d.name ∈ columns.map Column.name := by
    rw [List.any_eq_true, List.mem_map]
    simp only [decide_eq_true_eq]
  unfold addDimension Dimension.IsOf
  cases source : d.source? with
  | none => exact .inl ⟨rfl, nofun⟩
  | some reference =>
    obtain ⟨object, property⟩ := reference
    dsimp only
    by_cases skipped : object ≠ x.name ∨ columns.any (·.name = d.name) = true
    · rw [if_pos skipped]
      refine .inl ⟨rfl, ?_⟩
      rintro ⟨_, ⟨⟩⟩
      exact taken.mp (skipped.resolve_left (not_not_intro rfl))
    · rw [if_neg skipped]
      obtain ⟨own, free⟩ := not_or.mp skipped
      cases not_not.mp own
      exact .inr ⟨property, rfl, fun listed => free (taken.mpr listed), rfl⟩

/-- A dimension that is not added because there is a column of its name leaves no name out. -/
theorem mem_addDimension {columns : List Column} {d : Dimension} :
    column ∈ (addDimension x columns d).map Column.name ↔
      column ∈ columns.map Column.name ∨ d.name = column ∧ d.IsOf x := by
  rcases addDimension_cases x columns d with ⟨kept, taken⟩ | ⟨property, source, _, added⟩
  · rw [kept]
    constructor
    · exact .inl
    · rintro (listed | ⟨rfl, own⟩)
      · exact listed
      · exact taken own
  · have own : d.IsOf x := ⟨property, source⟩
    rw [added, List.map_append, List.mem_append, List.map_singleton, List.mem_singleton]
    simp only [own, and_true]
    exact or_congr_right eq_comm

theorem mem_foldl_addDimension {dimensions : List Dimension} {columns : List Column} :
    column ∈ (dimensions.foldl (addDimension x) columns).map Column.name ↔
      column ∈ columns.map Column.name ∨ ∃ d ∈ dimensions, d.name = column ∧ d.IsOf x := by
  induction dimensions generalizing columns with
  | nil => simp
  | cons d rest ih =>
    rw [List.foldl_cons, ih, mem_addDimension, or_assoc]
    simp only [List.mem_cons, exists_eq_or_imp]

/-- The columns of a table before they are put in order. -/
theorem columnsOf_perm (o : Ontology) (x : Object) :
    (columnsOf o x).Perm (o.dimensions.foldl (addDimension x) (propertyColumns x)) :=
  List.mergeSort_perm _ _

theorem mem_columnsOf : column ∈ (columnsOf o x).map Column.name ↔
    x.hasProperty column = true ∧ column ∉ x.identifiers ∨ ∃ d ∈ o.dimensions, d.name = column ∧ d.IsOf x := by
  rw [((columnsOf_perm o x).map Column.name).mem_iff, mem_foldl_addDimension, mem_propertyColumns]

theorem mem_primaryKey {view : View} :
    (∃ key, (tableOf o view x).primaryKey = some key ∧ column ∈ key) ↔ column ∈ x.identifiers := by
  unfold tableOf
  cases x.identifiers with
  | nil => simp
  | cons first rest => simp

/-- Where identifiers are properties, the columns of a table are what its object shows. -/
theorem hasColumn_iff {view : View} (identified : ∀ id ∈ x.identifiers, x.hasProperty id = true) :
    (tableOf o view x).HasColumn column ↔ o.Shows x column := by
  unfold LogicalTable.HasColumn Ontology.Shows
  rw [mem_primaryKey, show (tableOf o view x).dimensions = columnsOf o x from rfl, mem_columnsOf]
  by_cases identifier : column ∈ x.identifiers
  · simp [identifier, identified column identifier]
  · simp [identifier]

end Model
end SemanticLayer
