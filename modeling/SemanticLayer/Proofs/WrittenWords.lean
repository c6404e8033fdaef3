import SemanticLayer.Proofs.WellFormed

/-! Words of a vocabulary in a document, and what is made of them. Normalization has a default for every word
that it does not know, so only the checks keep a misspelt word from becoming another one. They look at the
types of properties, the cardinalities of relationships and the kinds of metrics, but not at the kinds of
dimensions. Main statement (`words_read_as_written`): a valid document is read as it is written, but for the
words of its dimensions, which are read so exactly if they are of the vocabulary. -/
namespace SemanticLayer

open Document

variable {α β : Type}

/-- A value that is read from a field is what the word there says. Only a field that is missing or null leads
to the default. -/
inductive Reads (parse : String → Option α) (default : α) : Option Json → α → Prop
  | missing : Reads parse default none default
  | null : Reads parse default (some .null) default
  | word {raw : String} {value : α} (recognised : parse raw = some value) :
      Reads parse default (some (.str raw)) value

/-- Every entry is read from one of the records and every record is read as one of the entries, in some
order. -/
def EachReads (reads : Json → β → Prop) (records : List Json) (entries : List β) : Prop :=
  ∃ ordered, ordered.Perm entries ∧ List.Forall₂ reads records ordered

structure Property.ReadFrom (v : Json) (p : Property) : Prop where
  name : v.text? "name" = some p.name
  type : Reads PropertyType.parse? .string (v.get? "type") p.type

structure Object.ReadFrom (v : Json) (x : Object) : Prop where
  name : v.text? "name" = some x.name
  properties : EachReads Property.ReadFrom (v.items "properties") x.properties

structure Relationship.ReadFrom (v : Json) (r : Relationship) : Prop where
  name : v.text? "name" = some r.name
  cardinality : Reads Cardinality.parse? .manyToOne (v.get? "cardinality") r.cardinality

structure Metric.ReadFrom (v : Json) (m : Metric) : Prop where
  name : v.text? "name" = some m.name
  type : Reads MetricType.parse? .custom (v.get? "type") m.type

structure Dimension.ReadFrom (v : Json) (d : Dimension) : Prop where
  name : v.text? "name" = some d.name
  type : Reads DimensionType.parse? .categorical (v.get? "type") d.type

/-! ### Fields -/

section Fields
variable {parse : String → Option α} {default : α} {v : Json} {key : String}

/-- Nothing but the vocabulary decides whether a field for a text is read as written. -/
theorem Reads.of_known (field : Optional v key IsText)
    (known : TextIs v key fun word => (parse word).isSome) :
    Reads parse default (v.get? key) (((v.text? key).bind parse).getD default) := by
  unfold TextIs at known
  unfold Json.text? at known ⊢
  cases found : v.get? key with
  | none => exact .missing
  | some x =>
    rcases field x found with rfl | ⟨raw, rfl⟩
    · exact .null
    · obtain ⟨value, recognised⟩ := Option.isSome_iff_exists.mp (known raw (by rw [found]; rfl))
      simpa [Json.str?, recognised] using Reads.word recognised

theorem Reads.known {value : α} (read : Reads parse default (v.get? key) value) :
    TextIs v key fun word => (parse word).isSome := by
  intro word text
  unfold Json.text? at text
  cases found : v.get? key with
  | none => simp [found] at text
  | some x =>
    rw [found] at read text
    cases read with
    | null => simp [Json.str?] at text
    | word recognised =>
      cases text
      exact Option.isSome_of_eq_some recognised

theorem Named.textOr (named : Named v) : v.text? "name" = some (v.textOr "name" "") := by
  obtain ⟨n, found⟩ := named.text
  rw [found, textOr_eq found]

end Fields

/-! ### Lists of records -/

section Lists
variable {reads : Json → β → Prop} {records : List Json} {entries : List β} {make : Json → β}

theorem EachReads.of_perm (perm : entries.Perm (records.map make))
    (each : ∀ v ∈ records, reads v (make v)) : EachReads reads records entries :=
  ⟨_, perm.symm, List.forall₂_map_right_iff.mpr (List.forall₂_same.mpr each)⟩

theorem EachReads.exists_of_mem (all : EachReads reads records entries) :
    ∀ v ∈ records, ∃ x ∈ entries, reads v x := by
  obtain ⟨ordered, perm, forall₂⟩ := all
  intro v member
  obtain ⟨i, bound, rfl⟩ := List.getElem_of_mem member
  have bound' : i < ordered.length := forall₂.length_eq ▸ bound
  exact ⟨ordered[i], perm.mem_iff.mp (List.getElem_mem bound'), forall₂.get bound bound'⟩

end Lists

/-! ### Records -/

namespace Document.DocumentForm
variable {root v : Json}

theorem object_readFrom (form : DocumentForm root) (declared : v ∈ root.items "objects") :
    (Normalize.object v).ReadFrom v where
  name := (form.objects_named v declared).textOr
  properties := EachReads.of_perm (form.properties_perm declared) fun p member =>
    have shaped := (form.objects_shaped v declared).properties.optional.items p member
    { name := (form.properties_named declared p member).textOr
      type := Reads.of_known shaped.type.optional ((form.objectRules v declared).types p member) }

theorem relationship_readFrom (form : DocumentForm root) (declared : v ∈ root.items "relationships") :
    (Normalize.relationship v).ReadFrom v where
  name := (form.relationships_named v declared).textOr
  cardinality := Reads.of_known (form.relationships.items v declared).cardinality
    (form.relationshipRules v declared).cardinality

theorem metric_readFrom (form : DocumentForm root) (declared : v ∈ root.items "metrics") :
    (Normalize.metric v).ReadFrom v where
  name := (form.metrics_named v declared).textOr
  type := Reads.of_known (form.metrics.items v declared).type (form.metricRules v declared).type

/-- No rule is about the word of a dimension, so it has to be known to be of the vocabulary. -/
theorem dimension_readFrom (form : DocumentForm root) (declared : v ∈ root.items "dimensions")
    (known : TextIs v "type" fun word => (DimensionType.parse? word).isSome) :
    (Normalize.dimension v).ReadFrom v where
  name := (form.dimensions_named v declared).textOr
  type := Reads.of_known (form.dimensions.items v declared).type known

end Document.DocumentForm

/-! ### Documents -/

/-- The entries of the ontology of a valid document are what its records say. Those of the dimensions are exactly
if every word that a dimension has for its kind is of the vocabulary. -/
theorem words_read_as_written {root : Json} (valid : (validate root).isValid = true) :
    EachReads Object.ReadFrom (root.items "objects") (normalize root).objects ∧
    EachReads Relationship.ReadFrom (root.items "relationships") (normalize root).relationships ∧
    EachReads Metric.ReadFrom (root.items "metrics") (normalize root).metrics ∧
    (EachReads Dimension.ReadFrom (root.items "dimensions") (normalize root).dimensions ↔
      ∀ v ∈ root.items "dimensions", TextIs v "type" fun word => (DimensionType.parse? word).isSome) := by
  have form := DocumentForm.of_findings (findings_of_isValid valid)
  refine ⟨.of_perm form.complete.objects fun _ => form.object_readFrom,
    .of_perm form.complete.relationships fun _ => form.relationship_readFrom,
    .of_perm form.complete.metrics fun _ => form.metric_readFrom, ?_, ?_⟩
  · intro all v declared
    obtain ⟨_, _, read⟩ := all.exists_of_mem v declared
    exact read.type.known
  · intro known
    exact .of_perm form.complete.dimensions fun v declared =>
      form.dimension_readFrom declared (known v declared)

/-- Orders with the day on which they were placed, which is of the kind that is given. -/
def Document.datedOrders (kind : String) : Json :=
  .obj [
    ("dimensions", .arr [.obj [("name", .str "ordered_on"), ("sourceProperty", .str "Order.placed"),
      ("type", .str kind)]]),
    ("metrics", .arr [.obj [("expression", .str "id"), ("grain", .arr [.str "Order"]),
      ("name", .str "volume"), ("type", .str "Distinct-Count")]]),
    ("objects", .arr [.obj [("identifiers", .arr [.str "id"]), ("name", .str "Order"),
      ("properties", .arr [
        .obj [("name", .str "id"), ("type", .str " Integer ")],
        .obj [("name", .str "placed"), ("type", .str "timestamp")]])]]),
    ("relationships", .arr [.obj [("cardinality", .null), ("from", .str "Order"), ("joinKeys", .arr []),
      ("name", .str "repeats"), ("to", .str "Order")]]),
    ("version", .str "1.0.0")]

theorem dated_orders_read :
    (validate (datedOrders "Date")).isValid = true ∧
    EachReads Object.ReadFrom ((datedOrders "Date").items "objects")
      (normalize (datedOrders "Date")).objects ∧
    EachReads Relationship.ReadFrom ((datedOrders "Date").items "relationships")
      (normalize (datedOrders "Date")).relationships ∧
    EachReads Metric.ReadFrom ((datedOrders "Date").items "metrics")
      (normalize (datedOrders "Date")).metrics ∧
    EachReads Dimension.ReadFrom ((datedOrders "Date").items "dimensions")
      (normalize (datedOrders "Date")).dimensions := by
  have valid : (validate (datedOrders "Date")).isValid = true := by decide
  obtain ⟨objects, relationships, metrics, dimensions_iff⟩ := words_read_as_written valid
  refine ⟨valid, objects, relationships, metrics, dimensions_iff.mpr ?_⟩
  intro v declared word text
  obtain rfl := List.mem_singleton.mp declared
  obtain rfl : "Date" = word := Option.some.inj text
  decide

/-- A word that only properties have is not reported for a dimension, which becomes a category. -/
theorem timestamp_dimension_categorical :
    (validate (datedOrders "timestamp")).isValid = true ∧
    (∃ v ∈ (datedOrders "timestamp").items "dimensions", v.text? "type" = some "timestamp") ∧
    DimensionType.parse? "timestamp" = none ∧
    (normalize (datedOrders "timestamp")).dimensions.map Dimension.type = [.categorical] := by
  have valid : (validate (datedOrders "timestamp")).isValid = true := by decide
  have form := DocumentForm.of_findings (findings_of_isValid valid)
  have types := form.complete.dimensions.map Dimension.type
  exact ⟨valid, ⟨_, List.mem_singleton_self _, rfl⟩, by decide, List.perm_singleton.mp types⟩

end SemanticLayer
