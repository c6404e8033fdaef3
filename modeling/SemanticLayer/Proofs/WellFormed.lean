import SemanticLayer.Document.Source
import SemanticLayer.Ontology.Normalize
import SemanticLayer.Proofs.DocumentForm

/-! What a valid document describes. Normalization drops and replaces whatever it cannot read, so a
gap in the checks would show as a missing entry or a reference to nothing. Main statement
(`valid_describes`): for a valid document neither happens. The invariants are those of an ontology
alone; what was kept is stated against the document. -/
namespace SemanticLayer

open Document

/-! ### Invariants -/

/-- Names in strictly increasing order. -/
def Increasing (name : α → String) (xs : List α) : Prop := (xs.map name).Pairwise (· < ·)

namespace Ontology

/-- The object has the property, the first bearer of the object's name being looked at. -/
def Exposes (o : Ontology) (object property : String) : Prop :=
  ∃ x, o.object? object = some x ∧ x.hasProperty property = true

/-- The join keys of a relationship are properties of its two ends. -/
def Joins (o : Ontology) (r : Relationship) : Prop :=
  ∀ pair ∈ r.joinKeys, o.Exposes r.source pair.1 ∧ o.Exposes r.target pair.2

/-- Names are distinct and every reference leads somewhere. Join keys matter only to an ontology with
a mapping. -/
structure WellFormed (o : Ontology) : Prop where
  nonempty : o.objects ≠ []
  objects : Increasing Object.name o.objects
  relationships : Increasing Relationship.name o.relationships
  metrics : Increasing Metric.name o.metrics
  dimensions : Increasing Dimension.name o.dimensions
  properties : ∀ x ∈ o.objects, Increasing Property.name x.properties
  identifiers : ∀ x ∈ o.objects, ∀ id ∈ x.identifiers, x.hasProperty id = true
  ends : ∀ r ∈ o.relationships, r.source ∈ o.objectNames ∧ r.target ∈ o.objectNames
  grains : ∀ m ∈ o.metrics, m.grain ≠ [] ∧ ∀ object ∈ m.grain, object ∈ o.objectNames
  sources : ∀ d ∈ o.dimensions, ∃ object property,
    d.source? = some (object, property) ∧ o.Exposes object property
  joins : o.mapping.isSome → ∀ r ∈ o.relationships, o.Joins r
  tables : ∀ mapping, o.mapping = some mapping → ∀ entry ∈ mapping.tables, entry.1 ∈ o.objectNames

/-- One entry for each item of the lists of a document, and a mapping if the document has one. -/
structure Complete (root : Json) (o : Ontology) : Prop where
  objects : o.objects.Perm ((root.items "objects").map Normalize.object)
  properties : ∀ v ∈ root.items "objects",
    (Normalize.object v).properties.Perm ((v.items "properties").map Normalize.property)
  relationships : o.relationships.Perm ((root.items "relationships").map Normalize.relationship)
  metrics : o.metrics.Perm ((root.items "metrics").map Normalize.metric)
  dimensions : o.dimensions.Perm ((root.items "dimensions").map Normalize.dimension)
  mapping : ∀ v, root.get? "snowflake" = some v →
    o.mapping = some (Normalize.mapping o.objects v)

end Ontology

/-! ### Lists of named records -/

theorem textOr_eq {v : Json} {key text default : String} (found : v.text? key = some text) :
    v.textOr key default = text := by
  rw [Json.textOr, found, Option.getD_some]

/-- A record with a name. -/
def Named (v : Json) : Prop := IsRecord v ∧ Required v "name" IsName

theorem Named.text {v : Json} (named : Named v) : ∃ n, v.text? "name" = some n :=
  (named.2.imp fun _ => IsName.isText).text

theorem Increasing.distinct {name : α → String} {xs : List α} (sorted : Increasing name xs) :
    (xs.map name).Nodup :=
  sorted.imp fun less => less.ne

section Lists
variable {v : Json} {key : String} {items : List Json} {make : Json → α} {name canonical : α → String}

theorem records_eq_items (named : ∀ x ∈ v.items key, Named x) : v.records key = v.items key :=
  List.filter_eq_self.mpr fun x member => isObj_iff.mpr (named x member).1

theorem made_names (named : ∀ x ∈ items, Named x)
    (reads : ∀ x, name (make x) = x.textOr "name" "") :
    (items.map make).map name = namesIn items := by
  induction items with
  | nil => rfl
  | cons x rest ih =>
    obtain ⟨n, found⟩ := (named x List.mem_cons_self).text
    have later := ih fun y member => named y (List.mem_cons_of_mem _ member)
    have head : name (make x) = n := (reads x).trans (textOr_eq found)
    simp only [List.map_cons, later, head, namesIn, List.filterMap_cons, found]

theorem made_of_mem {made : List α} {a : α} (perm : made.Perm (items.map make)) (member : a ∈ made) :
    ∃ x ∈ items, make x = a :=
  List.mem_map.mp (perm.mem_iff.mp member)

/-- No named record is lost when a list is sorted. -/
theorem sorted_perm (named : ∀ x ∈ v.items key, Named x) :
    (sortedBy name canonical ((v.records key).map make)).Perm ((v.items key).map make) := by
  rw [records_eq_items named]
  exact sortedBy_perm name canonical _

theorem sorted_increasing (named : ∀ x ∈ v.items key, Named x)
    (distinct : (namesIn (v.items key)).Nodup)
    (reads : ∀ x, name (make x) = x.textOr "name" "") :
    Increasing name (sortedBy name canonical ((v.records key).map make)) := by
  rw [records_eq_items named]
  refine sortedBy_increasing ?_
  rwa [made_names named reads]

end Lists

/-! ### Objects of a document of the right shape -/

namespace Document.DocumentShape
variable {root v : Json} {object property : String}

theorem objects_named (shape : DocumentShape root) : ∀ v ∈ root.items "objects", Named v :=
  fun v member => ⟨(shape.objects_shaped v member).record, (shape.objects_shaped v member).name⟩

theorem properties_named (shape : DocumentShape root) (declared : v ∈ root.items "objects") :
    ∀ p ∈ v.items "properties", Named p := fun p member =>
  have named := (shape.objects_shaped v declared).properties.optional.items p member
  ⟨named.record, named.name⟩

theorem relationships_named (shape : DocumentShape root) :
    ∀ v ∈ root.items "relationships", Named v := fun v member =>
  ⟨(shape.relationships.items v member).record, (shape.relationships.items v member).name⟩

theorem metrics_named (shape : DocumentShape root) : ∀ v ∈ root.items "metrics", Named v :=
  fun v member => ⟨(shape.metrics.items v member).record, (shape.metrics.items v member).name⟩

theorem dimensions_named (shape : DocumentShape root) : ∀ v ∈ root.items "dimensions", Named v :=
  fun v member => ⟨(shape.dimensions.items v member).record, (shape.dimensions.items v member).name⟩

theorem objects_perm (shape : DocumentShape root) :
    (normalize root).objects.Perm ((root.items "objects").map Normalize.object) :=
  sorted_perm shape.objects_named

theorem properties_perm (shape : DocumentShape root) (declared : v ∈ root.items "objects") :
    (Normalize.object v).properties.Perm ((v.items "properties").map Normalize.property) :=
  sorted_perm (shape.properties_named declared)

/-- Nothing is lost of a document of the right shape, even if its names or references are wrong. -/
theorem complete (shape : DocumentShape root) : Ontology.Complete root (normalize root) where
  objects := shape.objects_perm
  properties := fun _ declared => shape.properties_perm declared
  relationships := sorted_perm shape.relationships_named
  metrics := sorted_perm shape.metrics_named
  dimensions := sorted_perm shape.dimensions_named
  mapping := by
    intro v found
    have record : v.isObj = true := isObj_iff.mpr (shape.mapping v found).record
    simp [normalize, found, record]

/-- The objects of the ontology are those that the document declares. -/
theorem mem_objectNames (shape : DocumentShape root) :
    object ∈ (normalize root).objectNames ↔ Declares root object := by
  have names := shape.objects_perm.map Object.name
  rw [made_names shape.objects_named fun _ => rfl] at names
  exact names.mem_iff

/-- The properties of an object are those that the document declares for it. -/
theorem hasProperty_iff (shape : DocumentShape root) (declared : v ∈ root.items "objects") :
    (Normalize.object v).hasProperty property = true ↔ property ∈ namesIn (v.items "properties") := by
  have names := (shape.properties_perm declared).map Property.name
  rw [made_names (shape.properties_named declared) fun _ => rfl] at names
  rw [Object.hasProperty, Object.property?, find?_name_isSome]
  exact names.mem_iff

theorem objects_increasing (shape : DocumentShape root)
    (distinct : (namesIn (root.items "objects")).Nodup) :
    Increasing Object.name (normalize root).objects :=
  sorted_increasing shape.objects_named distinct fun _ => rfl

/-- The properties that are found through the names of objects are those that the document declares, if
these names are distinct. -/
theorem exposes_iff (shape : DocumentShape root) (distinct : (namesIn (root.items "objects")).Nodup) :
    (normalize root).Exposes object property ↔ DeclaresProperty root object property := by
  constructor
  · rintro ⟨x, found, held⟩
    obtain ⟨member, named⟩ := find?_name found
    obtain ⟨v, declared, rfl⟩ := made_of_mem shape.objects_perm member
    obtain ⟨name, text⟩ := (shape.objects_named v declared).text
    have sameName : name = object := (textOr_eq text).symm.trans named
    exact ⟨v, declared, sameName ▸ text, (shape.hasProperty_iff declared).mp held⟩
  · rintro ⟨v, declared, name, member⟩
    have made : Normalize.object v ∈ (normalize root).objects :=
      shape.objects_perm.mem_iff.mpr (List.mem_map_of_mem declared)
    have sameName : (Normalize.object v).name = object := textOr_eq name
    refine ⟨Normalize.object v, ?_, (shape.hasProperty_iff declared).mpr member⟩
    rw [Ontology.object?, ← sameName]
    exact find?_name_of_mem (shape.objects_increasing distinct).distinct made

end Document.DocumentShape

/-! ### References of a document of the right shape -/

namespace Document.DocumentShape
variable {root v : Json} {key : String}

theorem end_iff (shape : DocumentShape root) (field : Required v key IsText) :
    v.textOr key "" ∈ (normalize root).objectNames ↔ TextIs v key (Declares root) := by
  obtain ⟨object, text⟩ := field.text
  rw [textOr_eq text, shape.mem_objectNames]
  constructor
  · intro declared other same
    cases text.symm.trans same
    exact declared
  · intro all
    exact all object text

theorem grain_iff (shape : DocumentShape root) :
    (∀ object ∈ (Normalize.metric v).grain, object ∈ (normalize root).objectNames) ↔
      ∀ object ∈ v.texts "grain", Declares root object := by
  simp only [Normalize.metric, mem_textSet, shape.mem_objectNames]

theorem source_iff (shape : DocumentShape root) (distinct : (namesIn (root.items "objects")).Nodup)
    (shaped : DimensionShape v) :
    (∃ object property, (Normalize.dimension v).source? = some (object, property) ∧
      (normalize root).Exposes object property) ↔ SourceRule root v := by
  obtain ⟨source, text, split⟩ := shaped.reference
  have parts : (Normalize.dimension v).source? = splitReference? source :=
    congrArg splitReference? (textOr_eq text)
  rw [parts]
  constructor
  · rintro ⟨object, property, here, exposed⟩ other same object' property' there
    cases text.symm.trans same
    cases here.symm.trans there
    exact (shape.exposes_iff distinct).mp exposed
  · intro rule
    obtain ⟨⟨object, property⟩, here⟩ := Option.isSome_iff_exists.mp split
    exact ⟨object, property, here, (shape.exposes_iff distinct).mpr (rule source text _ _ here)⟩

theorem joins_iff (shape : DocumentShape root) (distinct : (namesIn (root.items "objects")).Nodup)
    (shaped : RelationshipShape v) :
    (normalize root).Joins (Normalize.relationship v) ↔ JoinRule root v := by
  obtain ⟨source, sourceText⟩ := shaped.source.text
  obtain ⟨target, targetText⟩ := shaped.target.text
  have sameSource : (Normalize.relationship v).source = source := textOr_eq sourceText
  have sameTarget : (Normalize.relationship v).target = target := textOr_eq targetText
  have joined : ∀ pair, pair ∈ (Normalize.relationship v).joinKeys ↔
      ∃ item ∈ v.items "joinKeys", item.textPair? = some pair := fun pair =>
    mem_sortedBy.trans List.mem_filterMap
  unfold Ontology.Joins JoinRule
  simp only [joined, sameSource, sameTarget, shape.exposes_iff distinct]
  constructor
  · intro all source' target' isSource isTarget item listed left right isPair
    cases sourceText.symm.trans isSource
    cases targetText.symm.trans isTarget
    exact all (left, right) ⟨item, listed, isPair⟩
  · rintro rule ⟨left, right⟩ ⟨item, listed, isPair⟩
    exact rule source target sourceText targetText item listed left right isPair

end Document.DocumentShape

theorem Document.MetricShape.grain_nonempty {v : Json} (shaped : MetricShape v) :
    (Normalize.metric v).grain ≠ [] ↔ v.get? "grain" ≠ some (.arr []) := by
  obtain ⟨_, found, items, rfl, texts⟩ := shaped.grain
  rw [found]
  cases items with
  | nil => simp [Normalize.metric, Json.texts, Json.items, found, Json.arr?, textSet]
  | cons head rest =>
    obtain ⟨object, rfl⟩ := texts head List.mem_cons_self
    have listed : object ∈ v.texts "grain" := by
      simp [Json.texts, Json.items, found, Json.arr?, Json.str?]
    simp [List.ne_nil_of_mem (mem_textSet.mpr listed), Normalize.metric]

theorem Document.DocumentForm.identifiers_found {root v : Json} (form : DocumentForm root)
    (declared : v ∈ root.items "objects") :
    ∀ id ∈ (Normalize.object v).identifiers, (Normalize.object v).hasProperty id = true := by
  intro id member
  have listed : id ∈ v.texts "identifiers" := mem_textSet.mp member
  exact (form.hasProperty_iff declared).mpr ((form.objectRules v declared).identifiers id listed)

/-! ### Tables of a mapping -/

/-- Tables are taken from the entries of a mapping, and then from the objects that have none yet. -/
theorem Normalize.tables_eq (raw : Json) (objects : List Object) : Normalize.tables raw objects =
    (objects.filterMap fun o => o.table.map fun table => (o.name, table)).foldl
      (fun tables pair => Keyed.insertNew pair.1 pair.2 tables)
      (Keyed.ofList ((((raw.get? "tableMappings").bind Json.obj?).getD []).filterMap
        fun (k, v) => v.str?.map ((k, ·)))) := by
  rw [List.foldl_filterMap]
  unfold Normalize.tables
  dsimp only
  congr 1
  funext tables o
  cases o.table <;> rfl

/-- The tables of a mapping are for its keys and for objects. -/
theorem Normalize.mem_tables {raw : Json} {objects : List Object} {entry : String × String}
    (member : entry ∈ Normalize.tables raw objects) :
    (∃ entries, raw.get? "tableMappings" = some (.obj entries) ∧ entry.1 ∈ entries.map Prod.fst) ∨
      entry.1 ∈ objects.map Object.name := by
  rw [Normalize.tables_eq] at member
  rcases Keyed.mem_foldl_insertNew member with listed | declared
  · left
    obtain ⟨⟨key, table⟩, stored, same⟩ := List.mem_filterMap.mp (Keyed.mem_ofList listed)
    cases found : raw.get? "tableMappings" with
    | none => simp [found] at stored
    | some tables =>
      cases tables with
      | obj entries =>
        refine ⟨entries, rfl, List.mem_map.mpr ⟨(key, table), ?_, ?_⟩⟩
        · simpa [found, Json.obj?] using stored
        · obtain ⟨_, _, rfl⟩ := Option.map_eq_some_iff.mp same
          rfl
      | _ => simp [found, Json.obj?] at stored
  · right
    obtain ⟨x, listed, same⟩ := List.mem_filterMap.mp declared
    obtain ⟨_, _, rfl⟩ := Option.map_eq_some_iff.mp same
    exact List.mem_map_of_mem listed

/-! ### Valid documents -/

theorem Document.findings_of_isValid {root : Json} (valid : (validate root).isValid = true) :
    (validate root).findings = [] :=
  List.isEmpty_iff.mp valid

/-- The ontology that is taken from a source is that of a valid document. -/
theorem Document.loadValid_ok {files : FileTree} {source : Source} {o : Ontology} :
    loadValid files source = .ok o ↔
      ∃ root, load files source = .ok root ∧ (validate root).isValid = true ∧ normalize root = o := by
  unfold loadValid process
  cases found : load files source with
  | error e => simp [bind, Except.bind]
  | ok root =>
    by_cases valid : (validate root).isValid = true
    · simp [bind, Except.bind, pure, Except.pure, Processed.valid, valid]
    · simp [bind, Except.bind, pure, Except.pure, Processed.valid, valid]

section Valid
variable {root : Json}

theorem Document.DocumentForm.wellFormed (form : DocumentForm root) :
    (normalize root).WellFormed where
  nonempty := by
    intro empty
    obtain ⟨_, found, some, items, rfl, _⟩ := form.objects
    have none := form.objects_perm.length_eq
    rw [empty] at none
    have noItems : items = [] := by simpa [Json.items, found, Json.arr?] using none.symm
    exact some (by rw [noItems])
  objects := form.objects_increasing form.objectNames
  relationships := sorted_increasing form.relationships_named form.relationshipNames fun _ => rfl
  metrics := sorted_increasing form.metrics_named form.metricNames fun _ => rfl
  dimensions := sorted_increasing form.dimensions_named form.dimensionNames fun _ => rfl
  properties := by
    intro x member
    obtain ⟨v, declared, rfl⟩ := made_of_mem form.objects_perm member
    exact sorted_increasing (form.properties_named declared) (form.objectRules v declared).distinct
      fun _ => rfl
  identifiers := by
    intro x member
    obtain ⟨v, declared, rfl⟩ := made_of_mem form.objects_perm member
    exact form.identifiers_found declared
  ends := by
    intro r member
    obtain ⟨v, declared, rfl⟩ := made_of_mem form.complete.relationships member
    have shaped := form.relationships.items v declared
    have rules := form.relationshipRules v declared
    exact ⟨(form.end_iff shaped.source).mpr rules.source, (form.end_iff shaped.target).mpr rules.target⟩
  grains := by
    intro m member
    obtain ⟨v, declared, rfl⟩ := made_of_mem form.complete.metrics member
    have rules := form.metricRules v declared
    exact ⟨(form.metrics.items v declared).grain_nonempty.mpr rules.grain,
      form.grain_iff.mpr rules.declared⟩
  sources := by
    intro d member
    obtain ⟨v, declared, rfl⟩ := made_of_mem form.complete.dimensions member
    exact (form.source_iff form.objectNames (form.dimensions.items v declared)).mpr
      (form.dimensionRules v declared)
  joins := by
    intro mapped r member
    obtain ⟨v, declared, rfl⟩ := made_of_mem form.complete.relationships member
    cases found : root.get? "snowflake" with
    | none => simp [normalize, found] at mapped
    | some mapping =>
      exact (form.joins_iff form.objectNames (form.relationships.items v declared)).mpr
        (form.joinRules mapping found v declared)
  tables := by
    intro mapping mapped entry member
    cases found : root.get? "snowflake" with
    | none => simp [normalize, found] at mapped
    | some v =>
      rw [form.complete.mapping v found] at mapped
      cases mapped
      rcases Normalize.mem_tables member with ⟨entries, tables, listed⟩ | named
      · obtain ⟨pair, stored, same⟩ := List.mem_map.mp listed
        exact form.mem_objectNames.mpr (same ▸ form.tableRules v found entries tables pair stored)
      · exact named

/-- A valid document describes a well-formed ontology, of which nothing was left out. -/
theorem valid_describes (valid : (validate root).isValid = true) :
    Ontology.Complete root (normalize root) ∧ (normalize root).WellFormed := by
  have form := DocumentForm.of_findings (findings_of_isValid valid)
  exact ⟨form.complete, form.wellFormed⟩

end Valid

/-- Orders and the customers who placed them. -/
def Document.orders : Json :=
  .obj [
    ("dimensions", .arr [.obj [("name", .str "status"), ("sourceProperty", .str "Order.status")]]),
    ("metrics", .arr [.obj [("expression", .str "COUNT(*)"), ("grain", .arr [.str "Order"]),
      ("name", .str "volume"), ("type", .str "count")]]),
    ("objects", .arr [
      .obj [("identifiers", .arr [.str "id"]), ("name", .str "Order"), ("properties", .arr [
        .obj [("name", .str "status"), ("type", .str "string")],
        .obj [("name", .str "id"), ("type", .str "integer")]])],
      .obj [("name", .str "Customer"), ("properties", .arr [
        .obj [("name", .str "id"), ("type", .str "integer")]]), ("table", .str "CLIENTS")]]),
    ("relationships", .arr [.obj [("cardinality", .str "many_to_one"), ("from", .str "Order"),
      ("joinKeys", .arr [.arr [.str "id", .str "id"]]), ("name", .str "buyer"),
      ("to", .str "Customer")]]),
    ("snowflake", .obj [("database", .str "DB"), ("schema", .str "PUBLIC"),
      ("tableMappings", .obj [("Order", .str "ORDERS")])]),
    ("version", .str "1.0.0")]

theorem orders_described : (validate orders).isValid = true ∧
    Ontology.Complete orders (normalize orders) ∧ (normalize orders).WellFormed :=
  ⟨by decide, valid_describes (by decide)⟩

end SemanticLayer
