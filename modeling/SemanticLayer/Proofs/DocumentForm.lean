import SemanticLayer.Document.Validation
import SemanticLayer.Proofs.DocumentShape
import SemanticLayer.Proofs.FirstNames

/-! What is asked of a document beyond its shape: names are distinct, words are of the vocabulary,
and what is referred to is declared. Main statement (`findings_eq_nil`): a document gets no findings
exactly if it has the shape and follows these rules. The rules speak of what is declared somewhere
in the document, not of which declaration a validator looks at. -/
namespace SemanticLayer.Document

open Json (Pointer)

/-! ### Rules -/

/-- The document declares the object. -/
def Declares (root : Json) (object : String) : Prop := object ∈ namesIn (root.items "objects")

/-- The document declares the object with the property. -/
def DeclaresProperty (root : Json) (object property : String) : Prop :=
  ∃ o ∈ root.items "objects", o.text? "name" = some object ∧ property ∈ namesIn (o.items "properties")

/-- Whatever text the field holds is as said. -/
def TextIs (v : Json) (key : String) (P : String → Prop) : Prop := ∀ s, v.text? key = some s → P s

@[mk_iff]
structure ObjectRules (v : Json) : Prop where
  distinct : (namesIn (v.items "properties")).Nodup
  types : ∀ p ∈ v.items "properties", TextIs p "type" fun word => (PropertyType.parse? word).isSome
  identifiers : ∀ id ∈ v.texts "identifiers", id ∈ namesIn (v.items "properties")

@[mk_iff]
structure RelationshipRules (root v : Json) : Prop where
  source : TextIs v "from" (Declares root)
  target : TextIs v "to" (Declares root)
  cardinality : TextIs v "cardinality" fun word => (Cardinality.parse? word).isSome

@[mk_iff]
structure MetricRules (root v : Json) : Prop where
  grain : v.get? "grain" ≠ some (.arr [])
  declared : ∀ object ∈ v.texts "grain", Declares root object
  type : TextIs v "type" fun word => (MetricType.parse? word).isSome

/-- The source of a dimension is a property of an object, both declared. -/
def SourceRule (root v : Json) : Prop :=
  TextIs v "sourceProperty" fun source => ∀ object property,
    splitReference? source = some (object, property) → DeclaresProperty root object property

/-- The join keys of a relationship are properties of its two ends. -/
def JoinRule (root v : Json) : Prop :=
  ∀ source target, v.text? "from" = some source → v.text? "to" = some target →
    ∀ pair ∈ v.items "joinKeys", ∀ left right, pair.textPair? = some (left, right) →
      DeclaresProperty root source left ∧ DeclaresProperty root target right

/-- The tables of a mapping are those of declared objects. -/
def TablesRule (root mapping : Json) : Prop :=
  ∀ entries, mapping.get? "tableMappings" = some (.obj entries) →
    ∀ entry ∈ entries, Declares root entry.1

/-- A document without fault. Join keys matter only to a document with a mapping. -/
structure DocumentForm (root : Json) : Prop extends DocumentShape root where
  objectNames : (namesIn (root.items "objects")).Nodup
  relationshipNames : (namesIn (root.items "relationships")).Nodup
  metricNames : (namesIn (root.items "metrics")).Nodup
  dimensionNames : (namesIn (root.items "dimensions")).Nodup
  objectRules : ∀ v ∈ root.items "objects", ObjectRules v
  relationshipRules : ∀ v ∈ root.items "relationships", RelationshipRules root v
  metricRules : ∀ v ∈ root.items "metrics", MetricRules root v
  dimensionRules : ∀ v ∈ root.items "dimensions", SourceRule root v
  joinRules : ∀ mapping, root.get? "snowflake" = some mapping →
    ∀ v ∈ root.items "relationships", JoinRule root v
  tableRules : ∀ mapping, root.get? "snowflake" = some mapping → TablesRule root mapping

/-! ### What a document declares -/

section Scope
variable {root : Json} {object property : String}

/-- The declarations of a document in their order. -/
def declarations (root : Json) : List (String × List String) :=
  (root.items "objects").filterMap fun o =>
    (o.text? "name").map fun name => (name, namesIn (o.items "properties"))

theorem scope_lookup : Keyed.get? object (Scope.ofDocument root) =
    Keyed.get? object (declarations root) := by
  have folded : Scope.ofDocument root =
      (declarations root).foldl (fun entries pair => Keyed.insertNew pair.1 pair.2 entries) [] := by
    rw [declarations, List.foldl_filterMap]
    unfold Scope.ofDocument
    congr 1
    funext scope o
    cases o.text? "name" <;> rfl
  rw [folded, Keyed.get?_foldl_insertNew]
  simp [Keyed.get?]

theorem declarations_names : (declarations root).map Prod.fst = namesIn (root.items "objects") := by
  rw [declarations, namesIn, List.map_filterMap]
  congr 1
  funext o
  cases o.text? "name" <;> rfl

theorem mem_declarations {properties : List String} :
    (object, properties) ∈ declarations root ↔
      ∃ o ∈ root.items "objects", o.text? "name" = some object ∧
        namesIn (o.items "properties") = properties := by
  simp [declarations]

theorem hasObject_iff : (Scope.ofDocument root).hasObject object = true ↔ Declares root object := by
  rw [Scope.hasObject, scope_lookup, Declares, ← declarations_names, Keyed.get?_isSome]

/-- Where objects have distinct names, it does not matter which declaration is looked at. -/
theorem hasProperty_iff (distinct : (namesIn (root.items "objects")).Nodup) :
    (Scope.ofDocument root).hasProperty object property = true ↔
      DeclaresProperty root object property := by
  rw [← declarations_names] at distinct
  rw [Scope.hasProperty, Scope.properties, scope_lookup, List.contains_iff_mem]
  constructor
  · intro member
    cases found : Keyed.get? object (declarations root) with
    | none => simp [found] at member
    | some properties =>
      obtain ⟨o, declared, name, rfl⟩ := mem_declarations.mp (Keyed.mem_of_get? found)
      exact ⟨o, declared, name, by simpa [found] using member⟩
  · rintro ⟨o, declared, name, member⟩
    have found := Keyed.get?_of_mem distinct (mem_declarations.mpr ⟨o, declared, name, rfl⟩)
    simpa [found] using member

end Scope

/-! ### References -/

section References
variable {root rel : Json} {place : Pointer}

theorem endReference_eq_nil {key role : String} :
    endReference (Scope.ofDocument root) place rel key role = [] ↔ TextIs rel key (Declares root) := by
  unfold endReference TextIs
  cases rel.text? key with
  | none => simp
  | some object => simp [hasObject_iff]

theorem mem_texts {v : Json} {key text : String} :
    text ∈ v.texts key ↔ ∃ item ∈ v.items key, item.str? = some text := by
  simp [Json.texts]

theorem grainReferences_eq_nil (place : Pointer) (metric : Json) :
    grainReferences (Scope.ofDocument root) place metric = [] ↔
      ∀ object ∈ metric.texts "grain", Declares root object := by
  unfold grainReferences
  rw [checkItems_eq_nil (P := fun entry => ∀ object, entry.str? = some object → Declares root object)]
  · simp only [mem_texts]
    exact ⟨fun all object ⟨item, member, text⟩ => all item member object text,
      fun all item member object text => all object ⟨item, member, text⟩⟩
  · intro place entry
    cases entry.str? with
    | none => simp
    | some object => simp [hasObject_iff]

theorem DeclaresProperty.object {object property : String}
    (declared : DeclaresProperty root object property) : Declares root object := by
  obtain ⟨o, member, name, _⟩ := declared
  exact List.mem_filterMap.mpr ⟨o, member, name⟩

theorem sourceReference_eq_nil (distinct : (namesIn (root.items "objects")).Nodup)
    (place : Pointer) (dim : Json) :
    sourceReference (Scope.ofDocument root) place dim = [] ↔ SourceRule root dim := by
  unfold sourceReference SourceRule TextIs
  cases dim.text? "sourceProperty" with
  | none => simp
  | some source =>
    cases parts : splitReference? source with
    | none => simp [parts]
    | some pair =>
      obtain ⟨object, property⟩ := pair
      have rule : (∀ s, some source = some s → ∀ o p, splitReference? s = some (o, p) →
          DeclaresProperty root o p) ↔ DeclaresProperty root object property := by
        simp [parts]
      rw [rule, ← hasProperty_iff distinct]
      by_cases known : (Scope.ofDocument root).hasObject object = true
      · by_cases declared : (Scope.ofDocument root).hasProperty object property = true <;>
          simp [parts, known, declared]
      · have absent : ¬ (Scope.ofDocument root).hasProperty object property = true := fun declared =>
          known (hasObject_iff.mpr ((hasProperty_iff distinct).mp declared).object)
        simp [parts, known, absent]

/-- What is reported about references, where objects have distinct names. -/
theorem references_eq_nil (distinct : (namesIn (root.items "objects")).Nodup) :
    references (Scope.ofDocument root) root = [] ↔
      (∀ v ∈ root.items "relationships",
        TextIs v "from" (Declares root) ∧ TextIs v "to" (Declares root)) ∧
      (∀ v ∈ root.items "metrics", ∀ object ∈ v.texts "grain", Declares root object) ∧
      ∀ v ∈ root.items "dimensions", SourceRule root v := by
  have ends : ∀ place v, relationshipReferences (Scope.ofDocument root) place v = [] ↔
      TextIs v "from" (Declares root) ∧ TextIs v "to" (Declares root) := fun place v => by
    rw [relationshipReferences, List.append_eq_nil_iff, endReference_eq_nil, endReference_eq_nil]
  rw [references, List.append_eq_nil_iff, List.append_eq_nil_iff, checkItems_eq_nil ends,
    checkItems_eq_nil grainReferences_eq_nil, checkItems_eq_nil (sourceReference_eq_nil distinct),
    and_assoc]

theorem joinKeyReference_eq_nil (distinct : (namesIn (root.items "objects")).Nodup)
    {object property : String} :
    joinKeyReference (Scope.ofDocument root) rel place object property = [] ↔
      (Declares root object → DeclaresProperty root object property) := by
  rw [← hasObject_iff, ← hasProperty_iff distinct]
  unfold joinKeyReference
  by_cases known : (Scope.ofDocument root).hasObject object = true <;>
    by_cases declared : (Scope.ofDocument root).hasProperty object property = true <;>
    simp [known, declared]

/-- Where the two ends of a relationship are declared, its join keys are checked in full. -/
theorem joinKeyReferences_eq_nil (distinct : (namesIn (root.items "objects")).Nodup)
    (source : TextIs rel "from" (Declares root)) (target : TextIs rel "to" (Declares root)) :
    joinKeyReferences (Scope.ofDocument root) place rel = [] ↔ JoinRule root rel := by
  unfold joinKeyReferences JoinRule
  cases fromText : rel.text? "from" with
  | none => simp
  | some object =>
    cases toText : rel.text? "to" with
    | none => simp
    | some other =>
      simp only [Option.some.injEq]
      rw [checkItems_eq_nil (P := fun pair => ∀ left right, pair.textPair? = some (left, right) →
        DeclaresProperty root object left ∧ DeclaresProperty root other right)]
      · constructor
        · rintro all _ _ rfl rfl pair member
          exact all pair member
        · intro all pair member
          exact all object other rfl rfl pair member
      · intro place pair
        cases pair.textPair? with
        | none => simp
        | some keys =>
          obtain ⟨left, right⟩ := keys
          rw [List.append_eq_nil_iff, joinKeyReference_eq_nil distinct,
            joinKeyReference_eq_nil distinct]
          simp [source object fromText, target other toText]

theorem tableReferences_eq_nil {mapping : Json} :
    tableReferences (Scope.ofDocument root) mapping = [] ↔ TablesRule root mapping := by
  unfold tableReferences TablesRule
  cases mapping.get? "tableMappings" with
  | none => simp
  | some tables =>
    cases tables with
    | obj entries =>
      have each : ∀ entry ∈ entries, (Scope.ofDocument root).hasObject entry.1 = true ↔
          Declares root entry.1 := fun _ _ => hasObject_iff
      simp only [Option.bind_some, Json.obj?, Option.getD_some, List.flatMap_eq_nil_iff]
      constructor
      · intro all _ same entry member
        cases same
        by_contra undeclared
        simpa [mt (each entry member).mp undeclared] using all entry member
      · intro all entry member
        simp [(each entry member).mpr (all entries rfl entry member)]
    | _ => simp [Json.obj?]

/-- What is reported about a mapping, where all else that is referred to is declared. -/
theorem mappingReferences_eq_nil (distinct : (namesIn (root.items "objects")).Nodup)
    (record : ∀ x, root.get? "snowflake" = some x → IsRecord x)
    (ends : ∀ v ∈ root.items "relationships",
      TextIs v "from" (Declares root) ∧ TextIs v "to" (Declares root)) :
    mappingReferences (Scope.ofDocument root) root = [] ↔
      ∀ mapping, root.get? "snowflake" = some mapping →
        (∀ v ∈ root.items "relationships", JoinRule root v) ∧ TablesRule root mapping := by
  unfold mappingReferences
  cases found : root.get? "snowflake" with
  | none => simp
  | some mapping =>
    have isRecord : mapping.isObj = true := isObj_iff.mpr (record mapping found)
    simp only [Option.filter_some, isRecord, ↓reduceIte, List.append_eq_nil_iff,
      tableReferences_eq_nil, Option.some.injEq, forall_eq']
    refine and_congr (checkItems_eq_nil_of_mem fun place rel member => ?_) Iff.rfl
    exact joinKeyReferences_eq_nil distinct (ends rel member).1 (ends rel member).2

end References

/-! ### Names and words -/

section Names
variable {root : Json} {place : Pointer}

theorem duplicateNames_eq_nil {key kind : String} :
    duplicateNames key kind root = [] ↔ (namesIn (root.items key)).Nodup := by
  rw [duplicateNames, reportNamed_eq_nil, namesIn_nodup]
  refine forall₅_congr fun index _ name _ _ => ?_
  cases firstIndex? name ((root.items key).take index) <;> simp

theorem cardinalityWord_eq_nil (place : Pointer) (rel : Json) :
    cardinalityWord place rel = [] ↔
      TextIs rel "cardinality" fun word => (Cardinality.parse? word).isSome := by
  unfold cardinalityWord TextIs
  cases rel.text? "cardinality" with
  | none => simp
  | some word => simp [Option.isSome_iff_ne_none]

theorem metricWords_eq_nil (place : Pointer) (metric : Json) :
    metricWords place metric = [] ↔ metric.get? "grain" ≠ some (.arr []) ∧
      TextIs metric "type" fun word => (MetricType.parse? word).isSome := by
  unfold metricWords TextIs
  rw [List.append_eq_nil_iff]
  refine and_congr ?_ ?_
  · split <;> simp_all
  · cases metric.text? "type" with
    | none => simp
    | some word => simp [Option.isSome_iff_ne_none]

theorem propertyNames_eq_nil {object name : String} {index : Nat} {property : Json} {first : Option Nat} :
    propertyNames object place index property name first = [] ↔
      first = none ∧ TextIs property "type" fun word => (PropertyType.parse? word).isSome := by
  unfold propertyNames TextIs
  rw [List.append_eq_nil_iff]
  refine and_congr ?_ ?_
  · cases first <;> simp
  · cases property.text? "type" with
    | none => simp
    | some word => simp [Option.isSome_iff_ne_none]

/-- What is reported about the names and words of an object of the right shape. -/
theorem objectNames_eq_nil {v : Json} (shape : ObjectShape v) (place : Pointer) :
    objectNames place v = [] ↔ ObjectRules v := by
  have properties : reportNamed (propertyNames (nameOf v) place) [] (v.items "properties").zipIdx = [] ↔
      (namesIn (v.items "properties")).Nodup ∧ ∀ p ∈ v.items "properties",
        TextIs p "type" fun word => (PropertyType.parse? word).isSome := by
    simp only [reportNamed_eq_nil, propertyNames_eq_nil, namesIn_nodup]
    constructor
    · intro all
      refine ⟨fun index p name found named => (all index p name found named).1, fun p listed => ?_⟩
      obtain ⟨name, named⟩ := shape.properties_named p listed
      obtain ⟨index, found⟩ := List.mem_iff_getElem?.mp listed
      exact (all index p name found named).2
    · rintro ⟨distinct, types⟩ index p name found named
      exact ⟨distinct index p name found named, types p (List.mem_of_getElem? found)⟩
  unfold objectNames
  dsimp only
  rw [List.append_eq_nil_iff, properties, objectRules_iff, and_assoc,
    checkItems_eq_nil (P := fun identifier => ∀ name, identifier.str? = some name →
      name ∈ namesIn (v.items "properties"))]
  · simp only [mem_texts]
    refine and_congr Iff.rfl (and_congr Iff.rfl ⟨?_, ?_⟩)
    · rintro all id ⟨item, member, text⟩
      exact all item member id text
    · intro all item member id text
      exact all id ⟨item, member, text⟩
  · intro place identifier
    cases identifier.str? with
    | none => simp
    | some name => simp [namesIn]

/-- What is reported about names and words, where objects have the right shape. -/
theorem names_eq_nil (shape : ∀ v ∈ root.items "objects", ObjectShape v) :
    names root = [] ↔
      ((namesIn (root.items "objects")).Nodup ∧ (namesIn (root.items "relationships")).Nodup ∧
        (namesIn (root.items "metrics")).Nodup ∧ (namesIn (root.items "dimensions")).Nodup) ∧
      (∀ v ∈ root.items "objects", ObjectRules v) ∧
      (∀ v ∈ root.items "relationships",
        TextIs v "cardinality" fun word => (Cardinality.parse? word).isSome) ∧
      ∀ v ∈ root.items "metrics", v.get? "grain" ≠ some (.arr []) ∧
        TextIs v "type" fun word => (MetricType.parse? word).isSome := by
  have objects : checkItems ["objects"] objectNames (root.items "objects") = [] ↔
      ∀ v ∈ root.items "objects", ObjectRules v :=
    checkItems_eq_nil_of_mem fun place v member => objectNames_eq_nil (shape v member) place
  simp only [names, List.append_eq_nil_iff, duplicateNames_eq_nil, objects,
    checkItems_eq_nil cardinalityWord_eq_nil, checkItems_eq_nil metricWords_eq_nil, and_assoc]

end Names

/-! ### Documents -/

theorem findings_eq (root : Json) : (validate root).findings =
    grammar root ++ references (Scope.ofDocument root) root ++ names root
      ++ mappingReferences (Scope.ofDocument root) root := rfl

/-- What passes all checks is of the stated form. The checks of a later pass say something only about
values whose shape an earlier pass has settled. -/
theorem DocumentForm.of_findings {root : Json} (silent : (validate root).findings = []) :
    DocumentForm root := by
  simp only [findings_eq, List.append_eq_nil_iff] at silent
  obtain ⟨⟨⟨grammatical, referred⟩, named⟩, mapped⟩ := silent
  have shape := (grammar_eq_nil root).mp grammatical
  obtain ⟨⟨objectNames, relationshipNames, metricNames, dimensionNames⟩, objectRules, cardinalities,
    metricWords⟩ := (names_eq_nil shape.objects_shaped).mp named
  obtain ⟨ends, grains, sources⟩ := (references_eq_nil objectNames).mp referred
  have mappingRules := (mappingReferences_eq_nil objectNames
    (fun x found => (shape.mapping x found).record) ends).mp mapped
  exact { shape with
    objectNames, relationshipNames, metricNames, dimensionNames, objectRules
    relationshipRules := fun v member => ⟨(ends v member).1, (ends v member).2, cardinalities v member⟩
    metricRules := fun v member =>
      ⟨(metricWords v member).1, grains v member, (metricWords v member).2⟩
    dimensionRules := sources
    joinRules := fun mapping found => (mappingRules mapping found).1
    tableRules := fun mapping found => (mappingRules mapping found).2 }

/-- What is of the stated form passes all checks. -/
theorem DocumentForm.silent {root : Json} (form : DocumentForm root) :
    (validate root).findings = [] := by
  have shape := form.toDocumentShape
  have ends : ∀ v ∈ root.items "relationships",
      TextIs v "from" (Declares root) ∧ TextIs v "to" (Declares root) := fun v member =>
    ⟨(form.relationshipRules v member).source, (form.relationshipRules v member).target⟩
  simp only [findings_eq, List.append_eq_nil_iff]
  refine ⟨⟨⟨(grammar_eq_nil root).mpr shape, ?_⟩, ?_⟩, ?_⟩
  · exact (references_eq_nil form.objectNames).mpr
      ⟨ends, fun v member => (form.metricRules v member).declared, form.dimensionRules⟩
  · exact (names_eq_nil shape.objects_shaped).mpr
      ⟨⟨form.objectNames, form.relationshipNames, form.metricNames, form.dimensionNames⟩,
        form.objectRules, fun v member => (form.relationshipRules v member).cardinality,
        fun v member => ⟨(form.metricRules v member).grain, (form.metricRules v member).type⟩⟩
  · exact (mappingReferences_eq_nil form.objectNames
      (fun x found => (shape.mapping x found).record) ends).mpr
      fun mapping found => ⟨form.joinRules mapping found, form.tableRules mapping found⟩

/-- A document gets no findings exactly if it has the right shape and follows the rules. -/
theorem findings_eq_nil (root : Json) : (validate root).findings = [] ↔ DocumentForm root :=
  ⟨DocumentForm.of_findings, DocumentForm.silent⟩

end SemanticLayer.Document
