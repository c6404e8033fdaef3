import SemanticLayer.Proofs.Yaml.ShapedText

/-! A semantic model is read back from its text. The value of a model has all that its shape asks for,
so the text gives back that value (`readShaped_model`); and the model is decoded from the value, what
was left out being what it defaults to (`ofJson?_model`). Main statement: `parse_render`. -/
namespace SemanticLayer
open Shape (Fits Members fits_record members_option)

/-! ### The value of a model is of its shape -/

section Fits
variable {fields : List (String × Bool × Shape)} {members : List (String × Json)}

theorem members_description (description : String) (rest : Members Fits fields members) :
    Members Fits (("description", false, .text) :: fields) (descriptionField description ++ members) := by
  unfold descriptionField
  split
  · exact .omitted rest
  · exact .given (.text rfl description) rest

theorem fits_list {α : Type} {item : Shape} {write : α → Json} (fit : ∀ x, Fits item (write x))
    (xs : List α) : Fits (.list item) (.arr (xs.map write)) := by
  refine .list rfl fun v member => ?_
  obtain ⟨x, _, rfl⟩ := List.mem_map.mp member
  exact fit x

theorem fits_texts (texts : List String) : Fits (.list .text) (Json.ofTexts texts) :=
  fits_list (.text rfl) texts

theorem fits_optional {inner : Shape} {v : Json} (required : Yaml.Node.stripOptional inner = inner)
    (fits : Fits inner v) : Fits (.optional inner) v := by
  have same : Yaml.Node.stripOptional (.optional inner) = Yaml.Node.stripOptional inner := required.symm
  cases fits with
  | text is s => exact .text (same.trans is) s
  | list is each => exact .list (same.trans is) each
  | record is nonempty distinct complete declared each =>
    exact .record (same.trans is) nonempty distinct complete declared each

end Fits

theorem fits_base (b : BaseTable) : Fits BaseTable.shape b.toJson :=
  fits_record (by decide) (by simp) (.given (.text rfl _) (.given (.text rfl _) (.given (.text rfl _) .nil)))

theorem fits_column (c : Column) : Fits Column.shape c.toJson := by
  have description := members_description c.description .nil
  rw [List.append_nil] at description
  exact fits_record (by decide) (by simp)
    (.given (.text rfl _) (.given (.text rfl _) (.given (.text rfl _) description)))

theorem fits_key (columns : List String) : Fits LogicalTable.keyShape (LogicalTable.keyToJson columns) :=
  fits_record (by decide) (by simp) (.given (fits_texts columns) .nil)

theorem fits_table (t : LogicalTable) : Fits LogicalTable.shape t.toJson := by
  simp only [LogicalTable.toJson, List.append_assoc]
  exact fits_record (by decide) (by simp) (.given (.text rfl _) (members_description t.description
    (.given (fits_base t.base) (members_option t.primaryKey (fun key => fits_optional rfl (fits_key key))
      (.given (fits_list fits_column t.dimensions) .nil)))))

theorem fits_pair (p : ColumnPair) : Fits ColumnPair.shape p.toJson :=
  fits_record (by decide) (by simp) (.given (.text rfl _) (.given (.text rfl _) .nil))

theorem fits_join (j : Join) : Fits Join.shape j.toJson :=
  fits_record (by decide) (by simp) (.given (.text rfl _) (.given (.text rfl _) (.given (.text rfl _)
    (.given (fits_list fits_pair j.columns) (.given (.text rfl _) (.given (.text rfl _) .nil))))))

theorem fits_fact (f : Fact) : Fits Fact.shape f.toJson := by
  have description := members_description f.description .nil
  rw [List.append_nil] at description
  simp only [Fact.toJson, List.append_assoc]
  exact fits_record (by decide) (by simp) (.given (.text rfl _) (.given (.text rfl _) (.given (.text rfl _)
    (.given (fits_texts f.grain) (members_option f.format (.text rfl) description)))))

theorem fits_model (m : Model) : Fits Model.shape m.toJson := by
  simp only [Model.toJson, List.append_assoc]
  exact fits_record (by decide) (by simp) (.given (.text rfl _) (members_description m.description
    (.given (fits_list fits_table m.tables) (.given (fits_list fits_join m.relationships)
      (.given (fits_list fits_fact m.facts) .nil)))))

/-- The text of a model is read as its value. -/
theorem readShaped_model (m : Model) : Yaml.readShaped Model.shape m.render = .ok m.toJson :=
  Yaml.readShaped_render (fits_model m) (by decide)

/-! ### The model of a value -/

section Decode
variable {α : Type} {read : Json → Option α} {write : α → Json}

/-! A field is read from the first member of its name. -/

theorem required_cons (name k : String) (v : Json) (rest : List (String × Json)) (p : Bool) :
    (Json.Record.mk ((k, v) :: rest) p).required name read =
      if k = name then read v else (Json.Record.mk rest p).required name read := by
  simp only [Json.Record.required, Keyed.get?]
  by_cases same : k = name
  · rw [if_pos same, if_pos same, Option.bind_some]
  · rw [if_neg same, if_neg same]

theorem defaulted_cons (name k : String) (v : Json) (rest : List (String × Json)) (p : Bool)
    (default : α) :
    (Json.Record.mk ((k, v) :: rest) p).defaulted name default read =
      if k = name then read v else (Json.Record.mk rest p).defaulted name default read := by
  simp only [Json.Record.defaulted, Keyed.get?]
  by_cases same : k = name
  · rw [if_pos same, if_pos same]
  · rw [if_neg same, if_neg same]

theorem defaulted_nil (name : String) (p : Bool) (default : α) :
    (Json.Record.mk [] p).defaulted name default read = some default :=
  rfl

theorem mapM_map (each : ∀ x, read (write x) = some x) (xs : List α) :
    (xs.map write).mapM read = some xs := by
  induction xs with
  | nil => rfl
  | cons x xs ih => simp [each, ih]

theorem listOf_map (each : ∀ x, read (write x) = some x) (xs : List α) :
    Json.listOf read (.arr (xs.map write)) = some xs :=
  mapM_map each xs

theorem listOf_texts (texts : List String) :
    Json.listOf Json.str? (Json.ofTexts texts) = some texts :=
  @listOf_map _ Json.str? Json.str (fun _ => rfl) texts

theorem ofJson?_base (b : BaseTable) : BaseTable.ofJson? b.toJson = some b := by
  simp [BaseTable.ofJson?, BaseTable.toJson, Json.Record.of?, defaulted_cons, Json.str?]

theorem ofJson?_column (c : Column) : Column.ofJson? c.toJson = some c := by
  obtain ⟨name, expr, dataType, description⟩ := c
  by_cases empty : description = "" <;>
    simp [Column.ofJson?, Column.toJson, descriptionField, empty, Json.Record.of?, required_cons,
      defaulted_cons, defaulted_nil, Json.str?]

theorem ofJson?_key (columns : List String) :
    LogicalTable.keyOfJson? (LogicalTable.keyToJson columns) = some columns := by
  simp [LogicalTable.keyOfJson?, LogicalTable.keyToJson, Json.Record.of?, required_cons, listOf_texts]

theorem orNull_key (columns : List String) :
    Json.orNull LogicalTable.keyOfJson? (LogicalTable.keyToJson columns) = some (some columns) := by
  have key := ofJson?_key columns
  unfold LogicalTable.keyToJson at key ⊢
  simp [Json.orNull, key]

theorem ofJson?_table (t : LogicalTable) : LogicalTable.ofJson? t.toJson = some t := by
  obtain ⟨name, description, base, primaryKey, dimensions⟩ := t
  by_cases empty : description = "" <;> cases primaryKey <;>
    simp [LogicalTable.ofJson?, LogicalTable.toJson, descriptionField, empty, Json.Record.of?,
      required_cons, defaulted_cons, defaulted_nil, Json.str?, ofJson?_base, orNull_key,
      listOf_map ofJson?_column]

theorem ofJson?_pair (p : ColumnPair) : ColumnPair.ofJson? p.toJson = some p := by
  simp [ColumnPair.ofJson?, ColumnPair.toJson, Json.Record.of?, required_cons, Json.str?]

theorem ofJson?_join (j : Join) : Join.ofJson? j.toJson = some j := by
  obtain ⟨name, leftTable, rightTable, columns, joinType, relationshipType⟩ := j
  simp [Join.ofJson?, Join.toJson, Json.Record.of?, required_cons, defaulted_cons, Json.str?,
    listOf_map ofJson?_pair]

theorem ofJson?_fact (f : Fact) : Fact.ofJson? f.toJson = some f := by
  obtain ⟨name, expr, aggregation, grain, format, description⟩ := f
  by_cases empty : description = "" <;> cases format <;>
    simp [Fact.ofJson?, Fact.toJson, descriptionField, empty, Json.Record.of?, required_cons,
      defaulted_cons, defaulted_nil, Json.str?, Json.orNull, listOf_texts]

/-- A model is decoded from its value. -/
theorem ofJson?_model (m : Model) : Model.ofJson? m.toJson = some m := by
  obtain ⟨name, description, tables, relationships, facts⟩ := m
  by_cases empty : description = "" <;>
    simp [Model.ofJson?, Model.toJson, descriptionField, empty, Json.Record.of?, required_cons,
      defaulted_cons, defaulted_nil, Json.str?, listOf_map ofJson?_table, listOf_map ofJson?_join,
      listOf_map ofJson?_fact]

end Decode

/-- Reading the text of any model gives back the model. -/
theorem parse_render (m : Model) : Model.parse m.render = .ok m := by
  simp only [Model.parse, readShaped_model, ofJson?_model]

end SemanticLayer
