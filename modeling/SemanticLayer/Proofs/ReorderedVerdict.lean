import SemanticLayer.Proofs.DeclarationOrder
import SemanticLayer.Proofs.DocumentForm

/-! The verdict on a document does not depend on the order in which it declares things. What is reported does:
of two objects with one name the later one is reported, and references are looked up in the earlier one. But
where names are distinct, every rule speaks of what is declared somewhere, and where they are not, no order
makes them so. Main statement: `reordered_same_verdict`. -/
namespace SemanticLayer.DeclarationOrder
open Document

/-! ### The other way round -/

section Symmetry
variable {Q : Json → Json → Prop} {R : String → Json → Json → Prop} {v w : Json}

theorem ItemsReordered.symm (turn : ∀ a b, Q a b → Q b a) (reordered : ItemsReordered Q v w) :
    ItemsReordered Q w v := by
  cases reordered with
  | items perm matched =>
    obtain ⟨middle, matched, perm⟩ := List.perm_comp_forall₂ perm matched
    exact .items perm.symm (matched.flip.imp fun a b related => turn b a related)
  | other plain => exact .other plain

theorem MembersRelated.symm (turn : ∀ key a b, R key a b → R key b a) (related : MembersRelated R v w) :
    MembersRelated R w v := by
  cases related with
  | members matched =>
    refine .members (matched.flip.imp fun m n pair => ?_)
    obtain ⟨sameKey, value⟩ := pair
    exact ⟨sameKey.symm, sameKey ▸ turn _ _ _ value⟩
  | other plain => exact .other plain

theorem objectField_symm (key : String) (a b : Json) (related : objectField key a b) :
    objectField key b a := by
  unfold objectField at related ⊢
  split at related
  · exact related.symm fun _ _ => Eq.symm
  · exact related.symm fun _ _ => Eq.symm
  · exact related.symm

theorem relationshipField_symm (key : String) (a b : Json) (related : relationshipField key a b) :
    relationshipField key b a := by
  unfold relationshipField at related ⊢
  split at related
  · exact related.symm fun _ _ => Eq.symm
  · exact related.symm

theorem metricField_symm (key : String) (a b : Json) (related : metricField key a b) :
    metricField key b a := by
  unfold metricField at related ⊢
  split at related
  · exact related.symm fun _ _ => Eq.symm
  · exact related.symm

theorem documentField_symm (key : String) (a b : Json) (related : documentField key a b) :
    documentField key b a := by
  unfold documentField at related ⊢
  split at related
  · exact related.symm fun _ _ => MembersRelated.symm objectField_symm
  · exact related.symm fun _ _ => MembersRelated.symm relationshipField_symm
  · exact related.symm fun _ _ => MembersRelated.symm metricField_symm
  · exact related.symm fun _ _ => Eq.symm
  · exact related.symm

theorem Reordered.symm {d e : Json} (reordered : Reordered d e) : Reordered e d :=
  MembersRelated.symm documentField_symm reordered

end Symmetry

/-! ### Fields -/

section Fields
variable {R : String → Json → Json → Prop} {Q : Json → Json → Prop} {P : Json → Prop} {v w : Json}
  {key : String}

theorem isRecord_kept (related : MembersRelated R v w) (record : IsRecord v) : IsRecord w :=
  isObj_iff.mp (isObj_eq related ▸ isObj_iff.mpr record)

theorem required_kept (same : v.get? key = w.get? key) (field : Required v key P) : Required w key P := by
  rwa [Required, ← same]

theorem optional_kept (same : v.get? key = w.get? key) (field : Optional v key P) : Optional w key P := by
  rwa [Optional, ← same]

theorem textIs_kept {P : String → Prop} (same : v.get? key = w.get? key) (field : TextIs v key P) :
    TextIs w key P := by
  rwa [TextIs, Json.text?, ← same]

/-- A field that the one record has is there in the other, with what is related to it in the way of the field. -/
theorem value_to (related : MembersRelated R v w) {x : Json} (found : v.get? key = some x) :
    ∃ y, w.get? key = some y ∧ R key x y := by
  have pair := get?_related related key
  rw [found] at pair
  generalize w.get? key = value at pair ⊢
  cases pair with
  | some relatedValue => exact ⟨_, rfl, relatedValue⟩

theorem value_from (related : MembersRelated R v w) {y : Json} (found : w.get? key = some y) :
    ∃ x, v.get? key = some x ∧ R key x y := by
  have pair := get?_related related key
  rw [found] at pair
  generalize v.get? key = value at pair ⊢
  cases pair with
  | some relatedValue => exact ⟨_, rfl, relatedValue⟩

theorem exists_related {xs ys : List Json} (matched : List.Forall₂ Q xs ys) :
    ∀ y ∈ ys, ∃ x ∈ xs, Q x y := by
  induction matched with
  | nil => simp
  | @cons x y xs ys head _ ih =>
    intro z member
    rcases List.mem_cons.mp member with rfl | later
    · exact ⟨x, List.mem_cons_self, head⟩
    · obtain ⟨a, earlier, related⟩ := ih z later
      exact ⟨a, List.mem_cons_of_mem _ earlier, related⟩

/-- Each item of the other list comes from one of the first. -/
theorem item_related (related : MembersRelated R v w) (key : String) (free : R key = ItemsReordered Q) :
    ∀ y ∈ w.items key, ∃ x ∈ v.items key, Q x y := by
  obtain ⟨middle, perm, matched⟩ := items_reordered related key free
  intro y member
  obtain ⟨x, listed, relatedItem⟩ := exists_related matched y member
  exact ⟨x, perm.mem_iff.mpr listed, relatedItem⟩

theorem isArrayOf_kept (kept : ∀ a b, Q a b → P a → P b) {x y : Json} (reordered : ItemsReordered Q x y)
    (array : IsArrayOf P x) : IsArrayOf P y := by
  obtain ⟨items, rfl, each⟩ := array
  cases reordered with
  | @items _ middle others perm matched =>
    refine ⟨others, rfl, fun b member => ?_⟩
    obtain ⟨a, listed, related⟩ := exists_related matched b member
    exact kept a b related (each a (perm.mem_iff.mpr listed))
  | other plain => simp [Json.isArr, Json.arr?] at plain

/-- Only the empty array becomes empty. -/
theorem eq_empty {x : Json} (reordered : ItemsReordered Q x (.arr [])) : x = .arr [] := by
  cases reordered with
  | items perm matched =>
    cases matched
    exact congrArg Json.arr perm.eq_nil
  | other _ => rfl

theorem requiredArray_kept (related : MembersRelated R v w) (free : R key = ItemsReordered Q)
    (kept : ∀ a b, Q a b → P a → P b) (field : Required v key (IsArrayOf P)) :
    Required w key (IsArrayOf P) := by
  obtain ⟨x, found, array⟩ := field
  obtain ⟨y, there, reordered⟩ := value_to related found
  exact ⟨y, there, isArrayOf_kept kept (free ▸ reordered) array⟩

theorem optionalArray_kept (related : MembersRelated R v w) (free : R key = ItemsReordered Q)
    (kept : ∀ a b, Q a b → P a → P b) (field : Optional v key (IsArrayOf P)) :
    Optional w key (IsArrayOf P) := by
  intro y found
  obtain ⟨x, there, reordered⟩ := value_from related found
  rw [free] at reordered
  rcases field x there with rfl | array
  · cases reordered
    exact .inl rfl
  · exact .inr (isArrayOf_kept kept reordered array)

/-- The names in a list are the same names, if the name of an item is kept. -/
theorem names_perm (related : MembersRelated R v w) (key : String) (free : R key = ItemsReordered Q)
    (named : ∀ a b, Q a b → a.text? "name" = b.text? "name") :
    (namesIn (v.items key)).Perm (namesIn (w.items key)) := by
  obtain ⟨middle, perm, matched⟩ := items_reordered related key free
  have names : middle.map (·.text? "name") = (w.items key).map (·.text? "name") := by
    rw [← List.forall₂_eq_eq_eq, List.forall₂_map_left_iff, List.forall₂_map_right_iff]
    exact matched.imp named
  have same : namesIn middle = namesIn (w.items key) := by
    have byName (items : List Json) : namesIn items = (items.map (·.text? "name")).filterMap id := by
      rw [List.filterMap_map]
      rfl
    rw [byName, byName, names]
  exact (perm.filterMap _).trans (.of_eq same)

end Fields

/-! ### Records -/

section Records
variable {v w : Json}

theorem text?_eq {R : String → Json → Json → Prop} (related : MembersRelated R v w) (key : String)
    (fixed : R key = Eq) : v.text? key = w.text? key := by
  rw [Json.text?, Json.text?, get?_eq related key fixed]

theorem objectShape_kept (related : MembersRelated objectField v w) (shape : ObjectShape v) :
    ObjectShape w where
  record := isRecord_kept related shape.record
  name := required_kept (get?_eq related _ rfl) shape.name
  description := optional_kept (get?_eq related _ rfl) shape.description
  table := optional_kept (get?_eq related _ rfl) shape.table
  schema := optional_kept (get?_eq related _ rfl) shape.schema
  database := optional_kept (get?_eq related _ rfl) shape.database
  identifiers := optionalArray_kept related rfl (fun _ _ same => same ▸ id) shape.identifiers
  properties := requiredArray_kept related rfl (fun _ _ same => same ▸ id) shape.properties

theorem relationshipShape_kept (related : MembersRelated relationshipField v w)
    (shape : RelationshipShape v) : RelationshipShape w where
  record := isRecord_kept related shape.record
  name := required_kept (get?_eq related _ rfl) shape.name
  source := required_kept (get?_eq related _ rfl) shape.source
  target := required_kept (get?_eq related _ rfl) shape.target
  cardinality := optional_kept (get?_eq related _ rfl) shape.cardinality
  description := optional_kept (get?_eq related _ rfl) shape.description
  joinKeys := requiredArray_kept related rfl (fun _ _ same => same ▸ id) shape.joinKeys

theorem metricShape_kept (related : MembersRelated metricField v w) (shape : MetricShape v) :
    MetricShape w where
  record := isRecord_kept related shape.record
  name := required_kept (get?_eq related _ rfl) shape.name
  expression := required_kept (get?_eq related _ rfl) shape.expression
  type := optional_kept (get?_eq related _ rfl) shape.type
  format := optional_kept (get?_eq related _ rfl) shape.format
  description := optional_kept (get?_eq related _ rfl) shape.description
  grain := requiredArray_kept related rfl (fun _ _ same => same ▸ id) shape.grain

/-- The texts in an array of texts are the same texts. -/
theorem texts_perm {R : String → Json → Json → Prop} (related : MembersRelated R v w) (key : String)
    (free : R key = ItemsReordered Eq) : (v.texts key).Perm (w.texts key) :=
  (items_perm related key free).filterMap _

theorem objectRules_kept (related : MembersRelated objectField v w) (rules : ObjectRules v) :
    ObjectRules w := by
  have properties := items_perm related "properties" rfl
  have names : (namesIn (v.items "properties")).Perm (namesIn (w.items "properties")) :=
    properties.filterMap _
  exact {
    distinct := names.nodup_iff.mp rules.distinct
    types := fun p member => rules.types p (properties.mem_iff.mpr member)
    identifiers := fun id member => names.mem_iff.mp
      (rules.identifiers id ((texts_perm related "identifiers" rfl).mem_iff.mpr member)) }

end Records

/-! ### Documents -/

section Documents
variable {d e : Json}

theorem objectNames_perm (reordered : Reordered d e) :
    (namesIn (d.items "objects")).Perm (namesIn (e.items "objects")) :=
  names_perm reordered "objects" rfl fun _ _ related => text?_eq related "name" rfl

theorem declares_kept (reordered : Reordered d e) {object : String} (declared : Declares d object) :
    Declares e object :=
  (objectNames_perm reordered).mem_iff.mp declared

/-- Which object of a name has the property does not matter, nor where it stands. -/
theorem declaresProperty_kept (reordered : Reordered d e) {object property : String}
    (declared : DeclaresProperty d object property) : DeclaresProperty e object property := by
  obtain ⟨o, member, name, listed⟩ := declared
  obtain ⟨p, there, related⟩ := item_related reordered.symm "objects" rfl o member
  have related : MembersRelated objectField o p := related.symm objectField_symm
  refine ⟨p, there, (text?_eq related "name" rfl).symm.trans name, ?_⟩
  exact ((items_perm related "properties" rfl).filterMap _).mem_iff.mp listed

theorem relationshipRules_kept (reordered : Reordered d e) {v w : Json}
    (related : MembersRelated relationshipField v w) (rules : RelationshipRules d v) :
    RelationshipRules e w where
  source := fun object text => declares_kept reordered
    (textIs_kept (get?_eq related _ rfl) rules.source object text)
  target := fun object text => declares_kept reordered
    (textIs_kept (get?_eq related _ rfl) rules.target object text)
  cardinality := textIs_kept (get?_eq related _ rfl) rules.cardinality

theorem metricRules_kept (reordered : Reordered d e) {v w : Json}
    (related : MembersRelated metricField v w) (rules : MetricRules d v) : MetricRules e w where
  grain := by
    intro empty
    obtain ⟨x, there, emptied⟩ := value_from related empty
    exact rules.grain (eq_empty emptied ▸ there)
  declared := fun object member => declares_kept reordered
    (rules.declared object ((texts_perm related "grain" rfl).mem_iff.mpr member))
  type := textIs_kept (get?_eq related _ rfl) rules.type

theorem sourceRule_kept (reordered : Reordered d e) {v : Json} (rule : SourceRule d v) :
    SourceRule e v := fun source text object property parts =>
  declaresProperty_kept reordered (rule source text object property parts)

theorem joinRule_kept (reordered : Reordered d e) {v w : Json}
    (related : MembersRelated relationshipField v w) (rule : JoinRule d v) : JoinRule e w := by
  intro source target sourceText targetText pair member left right keys
  rw [← text?_eq related "from" rfl] at sourceText
  rw [← text?_eq related "to" rfl] at targetText
  have listed := (items_perm related "joinKeys" rfl).mem_iff.mpr member
  obtain ⟨onSource, onTarget⟩ := rule source target sourceText targetText pair listed left right keys
  exact ⟨declaresProperty_kept reordered onSource, declaresProperty_kept reordered onTarget⟩

theorem tablesRule_kept (reordered : Reordered d e) {mapping : Json} (rule : TablesRule d mapping) :
    TablesRule e mapping := fun entries found entry member =>
  declares_kept reordered (rule entries found entry member)

theorem documentShape_kept (reordered : Reordered d e) (shape : DocumentShape d) : DocumentShape e where
  record := isRecord_kept reordered shape.record
  version := required_kept (get?_eq reordered _ rfl) shape.version
  name := optional_kept (get?_eq reordered _ rfl) shape.name
  description := optional_kept (get?_eq reordered _ rfl) shape.description
  objects := by
    obtain ⟨x, found, nonempty, array⟩ := shape.objects
    obtain ⟨y, there, related⟩ := value_to reordered found
    have related : ItemsReordered (MembersRelated objectField) x y := related
    refine ⟨y, there, ?_, isArrayOf_kept (P := ObjectShape) (fun _ _ => objectShape_kept) related array⟩
    rintro rfl
    exact nonempty (eq_empty related)
  relationships := optionalArray_kept reordered rfl (fun _ _ => relationshipShape_kept)
    shape.relationships
  metrics := optionalArray_kept reordered rfl (fun _ _ => metricShape_kept) shape.metrics
  dimensions := optionalArray_kept reordered rfl (fun _ _ same => same ▸ id) shape.dimensions
  mapping := fun x found => shape.mapping x ((get?_eq reordered _ rfl).trans found)

theorem documentForm_kept (reordered : Reordered d e) (form : DocumentForm d) : DocumentForm e where
  toDocumentShape := documentShape_kept reordered form.toDocumentShape
  objectNames := (objectNames_perm reordered).nodup_iff.mp form.objectNames
  relationshipNames := (names_perm reordered "relationships" rfl
    fun _ _ related => text?_eq related "name" rfl).nodup_iff.mp form.relationshipNames
  metricNames := (names_perm reordered "metrics" rfl
    fun _ _ related => text?_eq related "name" rfl).nodup_iff.mp form.metricNames
  dimensionNames := (names_perm reordered "dimensions" rfl
    fun _ _ same => same ▸ rfl).nodup_iff.mp form.dimensionNames
  objectRules := fun w member => by
    obtain ⟨v, listed, related⟩ := item_related reordered "objects" rfl w member
    exact objectRules_kept related (form.objectRules v listed)
  relationshipRules := fun w member => by
    obtain ⟨v, listed, related⟩ := item_related reordered "relationships" rfl w member
    exact relationshipRules_kept reordered related (form.relationshipRules v listed)
  metricRules := fun w member => by
    obtain ⟨v, listed, related⟩ := item_related reordered "metrics" rfl w member
    exact metricRules_kept reordered related (form.metricRules v listed)
  dimensionRules := fun v member => sourceRule_kept reordered
    (form.dimensionRules v ((items_perm reordered "dimensions" rfl).mem_iff.mpr member))
  joinRules := fun mapping found w member => by
    obtain ⟨v, listed, related⟩ := item_related reordered "relationships" rfl w member
    have declared := (get?_eq reordered "snowflake" rfl).trans found
    exact joinRule_kept reordered related (form.joinRules mapping declared v listed)
  tableRules := fun mapping found => tablesRule_kept reordered
    (form.tableRules mapping ((get?_eq reordered "snowflake" rfl).trans found))

theorem isValid_iff (root : Json) : (validate root).isValid = true ↔ DocumentForm root := by
  have verdict : (validate root).isValid = (validate root).findings.isEmpty := rfl
  rw [verdict, List.isEmpty_iff]
  exact ⟨DocumentForm.of_findings, DocumentForm.silent⟩

end Documents

/-- Documents that differ only in the order of their lists get the same verdict. -/
theorem reordered_same_verdict {d e : Json} (reordered : Reordered d e) :
    (validate d).isValid = (validate e).isValid := by
  rw [Bool.eq_iff_iff, isValid_iff, isValid_iff]
  exact ⟨documentForm_kept reordered, documentForm_kept reordered.symm⟩

/-- An object with properties of these names. -/
def keptObject (name : String) (identifiers properties : List String) : Json :=
  .obj [("name", .str name), ("identifiers", Json.ofTexts identifiers),
    ("properties", .arr (properties.map fun p => .obj [("name", .str p), ("type", .str "integer")]))]

/-- Objects of which some order has a total. -/
def totalled (objects : List Json) : Json :=
  .obj [("version", .str "1"), ("objects", .arr objects),
    ("dimensions", .arr [.obj [("name", .str "total"), ("sourceProperty", .str "Order.total")]])]

theorem keptObject_reordered (name : String) {ids ids' properties properties' : List String}
    (identifiers : ids.Perm ids') (listed : properties.Perm properties') :
    MembersRelated objectField (keptObject name ids properties) (keptObject name ids' properties') := by
  refine .members (.cons ⟨rfl, rfl⟩ (.cons ⟨rfl, ?_⟩ (.cons ⟨rfl, ?_⟩ .nil)))
  · exact .items (identifiers.map _) (List.forall₂_same.mpr fun _ _ => rfl)
  · exact .items (listed.map _) (List.forall₂_same.mpr fun _ _ => rfl)

theorem totalled_reordered {xs ys zs : List Json} (perm : xs.Perm ys)
    (matched : List.Forall₂ (MembersRelated objectField) ys zs) : Reordered (totalled xs) (totalled zs) :=
  .members (.cons ⟨rfl, rfl⟩ (.cons ⟨rfl, .items perm matched⟩ (.cons
    ⟨rfl, .items (.refl _) (List.forall₂_same.mpr fun _ _ => rfl)⟩ .nil)))

/-- Of two orders the second one is reported, and the total is looked up in the first one; yet neither
document is valid. Orders without a rival are valid in any order. -/
theorem totalled_same_verdict :
    let bare := keptObject "Order" ["id"] ["id"]
    let full := keptObject "Order" ["id", "total"] ["id", "total"]
    let turned := keptObject "Order" ["total", "id"] ["total", "id"]
    let client := keptObject "Client" ["id"] ["id"]
    Reordered (totalled [bare, full]) (totalled [turned, bare]) ∧
    (validate (totalled [bare, full])).isValid = (validate (totalled [turned, bare])).isValid ∧
    (validate (totalled [bare, full])).findings.length = 2 ∧
    (validate (totalled [turned, bare])).findings.length = 1 ∧
    Reordered (totalled [client, full]) (totalled [turned, client]) ∧
    (validate (totalled [client, full])).isValid = (validate (totalled [turned, client])).isValid ∧
    (validate (totalled [client, full])).isValid = true := by
  intro bare full turned client
  have swapped : MembersRelated objectField full turned :=
    keptObject_reordered "Order" (.swap ..) (.swap ..)
  have same (name : String) : MembersRelated objectField (keptObject name ["id"] ["id"])
      (keptObject name ["id"] ["id"]) := keptObject_reordered name (.refl _) (.refl _)
  have rivals : Reordered (totalled [bare, full]) (totalled [turned, bare]) :=
    totalled_reordered (.swap ..) (.cons swapped (.cons (same "Order") .nil))
  have alone : Reordered (totalled [client, full]) (totalled [turned, client]) :=
    totalled_reordered (.swap ..) (.cons swapped (.cons (same "Client") .nil))
  exact ⟨rivals, reordered_same_verdict rivals, by decide, by decide, alone,
    reordered_same_verdict alone, by decide⟩

end SemanticLayer.DeclarationOrder
