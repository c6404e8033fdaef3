import SemanticLayer.Proofs.CanonicalText
import SemanticLayer.Proofs.TextOrder

/-! The order in which a document declares things does not matter: documents that differ only in
the order of their lists describe the same ontology. The relation between the two documents is
stated on the values alone; nothing is assumed of them, so it holds of invalid documents too. -/
namespace SemanticLayer.DeclarationOrder

/-! ### Documents that differ in the order of their lists -/

/-- The items of an array in another order, each replaced by a related one. A value that is no array
stays as it is. -/
inductive ItemsReordered (R : Json → Json → Prop) : Json → Json → Prop
  | items {xs ys zs : List Json} :
      xs.Perm ys → List.Forall₂ R ys zs → ItemsReordered R (.arr xs) (.arr zs)
  | other {v : Json} : v.isArr = false → ItemsReordered R v v

/-- A record with the same keys, the value of each key being related in the way of that key. A value
that is no record stays as it is. -/
inductive MembersRelated (R : String → Json → Json → Prop) : Json → Json → Prop
  | members {ms ns : List (String × Json)} :
      List.Forall₂ (fun m n => m.1 = n.1 ∧ R m.1 m.2 n.2) ms ns → MembersRelated R (.obj ms) (.obj ns)
  | other {v : Json} : v.isObj = false → MembersRelated R v v

def objectField : String → Json → Json → Prop
  | "identifiers" => ItemsReordered Eq
  | "properties" => ItemsReordered Eq
  | _ => Eq

def relationshipField : String → Json → Json → Prop
  | "joinKeys" => ItemsReordered Eq
  | _ => Eq

def metricField : String → Json → Json → Prop
  | "grain" => ItemsReordered Eq
  | _ => Eq

def documentField : String → Json → Json → Prop
  | "objects" => ItemsReordered (MembersRelated objectField)
  | "relationships" => ItemsReordered (MembersRelated relationshipField)
  | "metrics" => ItemsReordered (MembersRelated metricField)
  | "dimensions" => ItemsReordered Eq
  | _ => Eq

/-- Two documents that differ only in the order of their objects, relationships, metrics and
dimensions, and within these in the order of identifiers, properties, join keys and grains. -/
def Reordered : Json → Json → Prop := MembersRelated documentField

/-! ### What such documents share -/

section Fields
variable {R : String → Json → Json → Prop} {Q : Json → Json → Prop} {v w : Json}

theorem isObj_eq (related : MembersRelated R v w) : v.isObj = w.isObj := by
  cases related <;> rfl

theorem get?_related (related : MembersRelated R v w) (key : String) :
    Option.Rel (R key) (v.get? key) (w.get? key) := by
  cases related with
  | members matched =>
    induction matched with
    | nil => exact .none
    | @cons m n ms ns head _ ih =>
      obtain ⟨sameKey, relatedValue⟩ := head
      by_cases found : m.1 = key
      · subst found
        simpa [Json.get?, Keyed.get?, ← sameKey] using Option.Rel.some relatedValue
      · simpa [Json.get?, Keyed.get?, ← sameKey, found] using ih
  | other plain =>
    cases v <;> first | exact .none | simp [Json.isObj, Json.obj?] at plain

theorem get?_eq (related : MembersRelated R v w) (key : String) (fixed : R key = Eq) :
    v.get? key = w.get? key := by
  have pair := get?_related related key
  rw [fixed] at pair
  generalize v.get? key = left at pair ⊢
  generalize w.get? key = right at pair ⊢
  cases pair with
  | some same => rw [same]
  | none => rfl

theorem items_reordered (related : MembersRelated R v w) (key : String)
    (free : R key = ItemsReordered Q) :
    ∃ middle, (v.items key).Perm middle ∧ List.Forall₂ Q middle (w.items key) := by
  have pair := get?_related related key
  rw [free] at pair
  unfold Json.items
  generalize v.get? key = left at pair ⊢
  generalize w.get? key = right at pair ⊢
  cases pair with
  | none => exact ⟨[], .refl _, .nil⟩
  | some reordered =>
    cases reordered with
    | items perm matched => exact ⟨_, perm, matched⟩
    | other plain => exact ⟨[], by simp_all [Json.isArr], by simp_all [Json.isArr]⟩

theorem items_perm (related : MembersRelated R v w) (key : String)
    (free : R key = ItemsReordered Eq) : (v.items key).Perm (w.items key) := by
  obtain ⟨middle, perm, matched⟩ := items_reordered related key free
  rw [List.forall₂_eq_eq_eq] at matched
  exact matched ▸ perm

private theorem matched_records {f : Json → α} {xs ys : List Json} (matched : List.Forall₂ Q xs ys)
    (kind : ∀ a b, Q a b → a.isObj = b.isObj) (respects : ∀ a b, Q a b → f a = f b) :
    (xs.filter Json.isObj).map f = (ys.filter Json.isObj).map f := by
  induction matched with
  | nil => rfl
  | cons head _ ih =>
    rw [List.filter_cons, List.filter_cons, kind _ _ head]
    split
    · rw [List.map_cons, List.map_cons, respects _ _ head, ih]
    · exact ih

/-- What is made of the records in a list, if related records make the same. -/
theorem records_perm {f : Json → α} (related : MembersRelated R v w) (key : String)
    (free : R key = ItemsReordered Q) (kind : ∀ a b, Q a b → a.isObj = b.isObj)
    (respects : ∀ a b, Q a b → f a = f b) :
    ((v.records key).map f).Perm ((w.records key).map f) := by
  obtain ⟨middle, perm, matched⟩ := items_reordered related key free
  exact ((perm.filter Json.isObj).map f).trans (.of_eq (matched_records matched kind respects))

theorem texts_set_eq (related : MembersRelated R v w) (key : String)
    (free : R key = ItemsReordered Eq) : textSet (v.texts key) = textSet (w.texts key) :=
  textSet_congr fun _ => ((items_perm related key free).filterMap Json.str?).mem_iff

end Fields

/-! ### Each kind of record -/

section Records
variable {v w : Json}

theorem object_eq (related : MembersRelated objectField v w) :
    Normalize.object v = Normalize.object w := by
  have field := get?_eq related
  have identifiers := texts_set_eq related "identifiers" rfl
  have properties : sortedBy Property.name Property.canonical
        ((v.records "properties").map Normalize.property) =
      sortedBy Property.name Property.canonical
        ((w.records "properties").map Normalize.property) :=
    sortedBy_eq_of_perm (fun _ _ _ => Property.canonical_injective)
      (records_perm related "properties" rfl (fun _ _ => congrArg _) (fun _ _ => congrArg _))
  simp only [Normalize.object, Json.textOr, Json.text?, Json.nonEmptyText?, identifiers, properties,
    field "name" rfl, field "description" rfl, field "table" rfl, field "schema" rfl,
    field "database" rfl]

theorem relationship_eq (related : MembersRelated relationshipField v w) :
    Normalize.relationship v = Normalize.relationship w := by
  have field := get?_eq related
  have joinKeys : sortedBy Prod.fst Prod.snd ((v.items "joinKeys").filterMap Json.textPair?) =
      sortedBy Prod.fst Prod.snd ((w.items "joinKeys").filterMap Json.textPair?) :=
    sortedBy_eq_of_perm (fun _ _ => Prod.ext)
      ((items_perm related "joinKeys" rfl).filterMap Json.textPair?)
  simp only [Normalize.relationship, Json.textOr, Json.text?, joinKeys, field "name" rfl,
    field "from" rfl, field "to" rfl, field "cardinality" rfl, field "description" rfl]

theorem metric_eq (related : MembersRelated metricField v w) :
    Normalize.metric v = Normalize.metric w := by
  have field := get?_eq related
  have grain := texts_set_eq related "grain" rfl
  simp only [Normalize.metric, Json.textOr, Json.text?, Json.nonEmptyText?, grain,
    field "name" rfl, field "expression" rfl, field "type" rfl, field "format" rfl,
    field "description" rfl]

end Records

/-! ### Documents -/

/-- Documents that differ only in the order of their lists describe the same ontology, and so have
the same fingerprint. -/
theorem reordered_same_ontology {d e : Json} (reordered : Reordered d e) :
    normalize d = normalize e ∧ (normalize d).fingerprint = (normalize e).fingerprint := by
  have field := get?_eq reordered
  have objects : sortedBy Object.name Object.canonical
        ((d.records "objects").map Normalize.object) =
      sortedBy Object.name Object.canonical ((e.records "objects").map Normalize.object) :=
    sortedBy_eq_of_perm (fun _ _ _ => Object.canonical_injective)
      (records_perm reordered "objects" rfl (fun _ _ => isObj_eq) (fun _ _ => object_eq))
  have relationships : sortedBy Relationship.name Relationship.canonical
        ((d.records "relationships").map Normalize.relationship) =
      sortedBy Relationship.name Relationship.canonical
        ((e.records "relationships").map Normalize.relationship) :=
    sortedBy_eq_of_perm (fun _ _ _ => Relationship.canonical_injective)
      (records_perm reordered "relationships" rfl (fun _ _ => isObj_eq) (fun _ _ => relationship_eq))
  have metrics : sortedBy Metric.name Metric.canonical
        ((d.records "metrics").map Normalize.metric) =
      sortedBy Metric.name Metric.canonical ((e.records "metrics").map Normalize.metric) :=
    sortedBy_eq_of_perm (fun _ _ _ => Metric.canonical_injective)
      (records_perm reordered "metrics" rfl (fun _ _ => isObj_eq) (fun _ _ => metric_eq))
  have dimensions : sortedBy Dimension.name Dimension.canonical
        ((d.records "dimensions").map Normalize.dimension) =
      sortedBy Dimension.name Dimension.canonical
        ((e.records "dimensions").map Normalize.dimension) :=
    sortedBy_eq_of_perm (fun _ _ _ => Dimension.canonical_injective)
      (records_perm reordered "dimensions" rfl (fun _ _ => congrArg _) (fun _ _ => congrArg _))
  have same : normalize d = normalize e := by
    simp only [normalize, Json.textOr, Json.text?, objects, relationships, metrics, dimensions,
      field "version" rfl, field "name" rfl, field "description" rfl, field "snowflake" rfl]
  exact ⟨same, congrArg Ontology.fingerprint same⟩

/-- Two objects of one name that compete for a table; the second one has a property twice. -/
def rivals (objects : List Json) : Json :=
  .obj [("objects", .arr objects), ("snowflake", .obj [("database", .str "DB")])]

def bareOrder : Json := .obj [("name", .str "Order"), ("table", .str "ORDERS")]

def fullOrder (types : List String) : Json :=
  .obj [("name", .str "Order"),
    ("properties", .arr (types.map fun t => .obj [("name", .str "id"), ("type", .str t)])),
    ("table", .str "FACTS")]

theorem rivals_same_ontology :
    let d := rivals [bareOrder, fullOrder ["string", "integer"]]
    let e := rivals [fullOrder ["integer", "string"], bareOrder]
    Reordered d e ∧ normalize d = normalize e ∧
      (normalize d).fingerprint = (normalize e).fingerprint := by
  intro d e
  have bare : MembersRelated objectField bareOrder bareOrder :=
    .members (.cons ⟨rfl, rfl⟩ (.cons ⟨rfl, rfl⟩ .nil))
  have full : MembersRelated objectField (fullOrder ["string", "integer"])
      (fullOrder ["integer", "string"]) :=
    .members (.cons ⟨rfl, rfl⟩ (.cons
      ⟨rfl, ItemsReordered.items (.swap _ _ []) (.cons rfl (.cons rfl .nil))⟩
      (.cons ⟨rfl, rfl⟩ .nil)))
  have objects : ItemsReordered (MembersRelated objectField)
      (.arr [bareOrder, fullOrder ["string", "integer"]])
      (.arr [fullOrder ["integer", "string"], bareOrder]) :=
    .items (.swap _ _ []) (.cons full (.cons bare .nil))
  have reordered : Reordered d e := .members (.cons ⟨rfl, objects⟩ (.cons ⟨rfl, rfl⟩ .nil))
  exact ⟨reordered, reordered_same_ontology reordered⟩

end SemanticLayer.DeclarationOrder
