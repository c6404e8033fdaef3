import Mathlib
import SemanticLayer.Document.Grammar

/-! The shape of documents: which fields a record has and what kind of value each of them holds. The
shape is stated on the values alone, one structure for each kind of record. The grammar reports
nothing exactly for documents of that shape, so no field is left to chance: what it lets pass is of
the stated kind, and whatever is of that kind passes. -/
namespace SemanticLayer.Document

open Json (Pointer)

/-! ### Fields -/

/-- A field that is there and as said. -/
def Required (v : Json) (key : String) (P : Json → Prop) : Prop := ∃ x, v.get? key = some x ∧ P x

/-- A field that is as said, null or not there. -/
def Optional (v : Json) (key : String) (P : Json → Prop) : Prop :=
  ∀ x, v.get? key = some x → x = .null ∨ P x

def IsRecord (x : Json) : Prop := ∃ members, x = .obj members
def IsText (x : Json) : Prop := ∃ s, x = .str s
def IsFlag (x : Json) : Prop := ∃ b, x = .bool b

/-- A text in which something else than blanks stands. -/
def IsName (x : Json) : Prop := ∃ s, x = .str s ∧ ∃ c ∈ s.toList, Text.isBlank c = false

def IsTextPair (x : Json) : Prop := ∃ left right, x = .arr [.str left, .str right]

/-- An array all of whose items are as said. -/
def IsArrayOf (P : Json → Prop) (x : Json) : Prop := ∃ items, x = .arr items ∧ ∀ v ∈ items, P v

/-! ### Records -/

@[mk_iff]
structure PropertyShape (v : Json) : Prop where
  record : IsRecord v
  name : Required v "name" IsName
  type : Required v "type" IsText
  description : Optional v "description" IsText
  nullable : Optional v "nullable" IsFlag
  required : Optional v "required" IsFlag

@[mk_iff]
structure ObjectShape (v : Json) : Prop where
  record : IsRecord v
  name : Required v "name" IsName
  description : Optional v "description" IsText
  table : Optional v "table" IsText
  schema : Optional v "schema" IsText
  database : Optional v "database" IsText
  identifiers : Optional v "identifiers" (IsArrayOf IsText)
  properties : Required v "properties" (IsArrayOf PropertyShape)

@[mk_iff]
structure RelationshipShape (v : Json) : Prop where
  record : IsRecord v
  name : Required v "name" IsName
  source : Required v "from" IsText
  target : Required v "to" IsText
  cardinality : Optional v "cardinality" IsText
  description : Optional v "description" IsText
  joinKeys : Required v "joinKeys" (IsArrayOf IsTextPair)

@[mk_iff]
structure MetricShape (v : Json) : Prop where
  record : IsRecord v
  name : Required v "name" IsName
  expression : Required v "expression" IsText
  type : Optional v "type" IsText
  format : Optional v "format" IsText
  description : Optional v "description" IsText
  grain : Required v "grain" (IsArrayOf IsText)

/-- The text that names a property of an object has both parts. -/
def IsReference (x : Json) : Prop := ∃ s, x = .str s ∧ (splitReference? s).isSome

@[mk_iff]
structure DimensionShape (v : Json) : Prop where
  record : IsRecord v
  name : Required v "name" IsName
  type : Optional v "type" IsText
  description : Optional v "description" IsText
  source : Required v "sourceProperty" IsReference

/-- A mapping; its tables may be left out, but not be null. -/
@[mk_iff]
structure MappingShape (v : Json) : Prop where
  record : IsRecord v
  database : Required v "database" IsText
  schema : Required v "schema" IsText
  warehouse : Optional v "warehouse" IsText
  tables : ∀ x, v.get? "tableMappings" = some x → ∃ entries, x = .obj entries ∧
    ∀ entry ∈ entries, IsText entry.2

/-- A document; its mapping may be left out, but not be null. -/
@[mk_iff]
structure DocumentShape (root : Json) : Prop where
  record : IsRecord root
  version : Required root "version" IsText
  name : Optional root "name" IsText
  description : Optional root "description" IsText
  objects : Required root "objects" fun x => x ≠ .arr [] ∧ IsArrayOf ObjectShape x
  relationships : Optional root "relationships" (IsArrayOf RelationshipShape)
  metrics : Optional root "metrics" (IsArrayOf MetricShape)
  dimensions : Optional root "dimensions" (IsArrayOf DimensionShape)
  mapping : ∀ x, root.get? "snowflake" = some x → MappingShape x

/-! ### What fields hold -/

section Fields
variable {v : Json} {key : String} {P Q : Json → Prop}

theorem isObj_iff : v.isObj = true ↔ IsRecord v := by
  cases v <;> simp [Json.isObj, Json.obj?, IsRecord]

theorem IsName.isText (named : IsName v) : IsText v := by
  obtain ⟨s, rfl, _⟩ := named
  exact ⟨s, rfl⟩

theorem Required.imp (field : Required v key P) (weaker : ∀ x, P x → Q x) : Required v key Q := by
  obtain ⟨x, found, holds⟩ := field
  exact ⟨x, found, weaker x holds⟩

theorem Required.optional (field : Required v key P) : Optional v key P := by
  obtain ⟨x, found, holds⟩ := field
  intro y same
  rw [found] at same
  cases same
  exact .inr holds

theorem Required.text (field : Required v key IsText) : ∃ s, v.text? key = some s := by
  obtain ⟨_, found, s, rfl⟩ := field
  exact ⟨s, by simp [Json.text?, found, Json.str?]⟩

theorem DimensionShape.reference (shaped : DimensionShape v) :
    ∃ source, v.text? "sourceProperty" = some source ∧ (splitReference? source).isSome := by
  obtain ⟨_, found, source, rfl, split⟩ := shaped.source
  exact ⟨source, by simp [Json.text?, found, Json.str?], split⟩

/-- Of a field that need not be an array, the items are as said if there are any. -/
theorem Optional.items (field : Optional v key (IsArrayOf P)) : ∀ x ∈ v.items key, P x := by
  intro x member
  unfold Json.items at member
  cases found : v.get? key with
  | none => simp [found] at member
  | some y =>
    rcases field y found with rfl | ⟨items, rfl, each⟩
    · simp [found, Json.arr?] at member
    · exact each x (by simpa [found, Json.arr?] using member)

end Fields

/-! ### Checks of fields -/

section Checks
variable {place : Pointer} {v : Json} {key kind missing : String} {P : Json → Prop}
  {check : Pointer → Json → List Finding} {items : List Json}

theorem requireName_eq_nil : requireName kind place v = [] ↔ Required v "name" IsName := by
  unfold requireName Required
  cases v.get? "name" with
  | none => simp
  | some x =>
    cases x with
    | str s => simp [IsName, Text.allBlank]
    | _ => simp [IsName]

theorem requireText_eq_nil : requireText key place v = [] ↔ Required v key IsText := by
  unfold requireText Required
  cases v.get? key with
  | none => simp
  | some x => cases x <;> simp [IsText]

theorem allowText_eq_nil : allowText key place v = [] ↔ Optional v key IsText := by
  unfold allowText Optional
  cases v.get? key with
  | none => simp
  | some x => cases x <;> simp [IsText]

theorem allowFlag_eq_nil : allowFlag key place v = [] ↔ Optional v key IsFlag := by
  unfold allowFlag Optional
  cases v.get? key with
  | none => simp
  | some x => cases x <;> simp [IsFlag]

/-- What holds of the findings of both branches of a check holds of all findings of the check. -/
theorem forall_mem_ite {P : Finding → Prop} {c : Prop} [Decidable c] {xs ys : List Finding}
    (yes : ∀ f ∈ xs, P f) (no : ∀ f ∈ ys, P f) : ∀ f ∈ (if c then xs else ys), P f := by
  by_cases holds : c
  · rwa [if_pos holds]
  · rwa [if_neg holds]

/-- What is reported of a list is reported of one of its items, at the index of that item. -/
theorem mem_checkItems {f : Finding} : f ∈ checkItems place check items ↔
    ∃ (i : Nat) (v : Json), items[i]? = some v ∧ f ∈ check (place ++ [toString i]) v := by
  unfold checkItems indexed
  constructor
  · intro member
    obtain ⟨_, listed, reported⟩ := List.mem_flatMap.mp member
    obtain ⟨⟨v, i⟩, found, rfl⟩ := List.mem_map.mp listed
    exact ⟨i, v, List.mem_zipIdx_iff_getElem?.mp found, reported⟩
  · rintro ⟨i, v, found, reported⟩
    refine List.mem_flatMap.mpr ⟨(toString i, v), List.mem_map.mpr ⟨(v, i), ?_, rfl⟩, reported⟩
    exact List.mem_zipIdx_iff_getElem?.mpr found

/-- Where the place of an item does not matter to a check, nor does its index. -/
theorem checkItems_eq_nil_of_mem (each : ∀ place, ∀ v ∈ items, check place v = [] ↔ P v) :
    checkItems place check items = [] ↔ ∀ v ∈ items, P v := by
  unfold checkItems indexed
  rw [List.flatMap_eq_nil_iff]
  simp only [List.forall_mem_map]
  constructor
  · intro all v member
    obtain ⟨index, bound, rfl⟩ := List.mem_iff_getElem.mp member
    exact (each _ _ member).mp
      (all (items[index], index) (by simp [List.mem_zipIdx_iff_getElem?, bound]))
  · intro all pair member
    have listed := List.mem_of_getElem? (List.mem_zipIdx_iff_getElem?.mp member)
    exact (each _ _ listed).mpr (all pair.1 listed)

theorem checkItems_eq_nil (each : ∀ place v, check place v = [] ↔ P v) :
    checkItems place check items = [] ↔ ∀ v ∈ items, P v :=
  checkItems_eq_nil_of_mem fun place v _ => each place v

theorem allowArray_eq_nil (each : ∀ place v, check place v = [] ↔ P v) :
    allowArray key place v check = [] ↔ Optional v key (IsArrayOf P) := by
  unfold allowArray Optional
  cases v.get? key with
  | none => simp
  | some x => cases x <;> simp [IsArrayOf, checkItems_eq_nil each]

theorem requireArray_eq_nil (each : ∀ place v, check place v = [] ↔ P v) :
    requireArray key missing place v check = [] ↔ Required v key (IsArrayOf P) := by
  unfold requireArray Required
  cases v.get? key with
  | none => simp
  | some x => cases x <;> simp [IsArrayOf, checkItems_eq_nil each]

theorem itemText_eq_nil (message : String) (place : Pointer) (v : Json) :
    itemText message place v = [] ↔ IsText v := by
  unfold itemText
  cases v <;> simp [Json.isStr, Json.str?, IsText]

/-- What is no record is reported whatever is checked of records. -/
theorem record_check_eq_nil {checks : List Finding} {fault : Finding} :
    (if v.isObj then checks else [fault]) = [] ↔ IsRecord v ∧ checks = [] := by
  rw [← isObj_iff]
  split <;> simp_all

end Checks

/-! ### Checks of records -/

theorem propertyGrammar_eq_nil (place : Pointer) (v : Json) :
    propertyGrammar place v = [] ↔ PropertyShape v := by
  unfold propertyGrammar
  simp only [record_check_eq_nil, List.append_eq_nil_iff, requireName_eq_nil, allowText_eq_nil,
    allowFlag_eq_nil, propertyShape_iff, and_assoc]
  refine and_congr_right fun _ => and_congr_right fun _ => and_congr ?_ Iff.rfl
  unfold Required
  cases v.get? "type" with
  | none => simp
  | some x => cases x <;> simp [IsText]

theorem objectGrammar_eq_nil (place : Pointer) (v : Json) :
    objectGrammar place v = [] ↔ ObjectShape v := by
  simp only [objectGrammar, record_check_eq_nil, List.append_eq_nil_iff, requireName_eq_nil,
    allowText_eq_nil, allowArray_eq_nil (itemText_eq_nil _),
    requireArray_eq_nil propertyGrammar_eq_nil, objectShape_iff, and_assoc]

theorem joinKeyGrammar_eq_nil (place : Pointer) (v : Json) :
    joinKeyGrammar place v = [] ↔ IsTextPair v := by
  unfold joinKeyGrammar
  split
  · rename_i left right
    exact ⟨fun _ => ⟨left, right, rfl⟩, fun _ => rfl⟩
  · rename_i noPair
    exact ⟨fun reported => by simp at reported,
      fun ⟨left, right, pair⟩ => (noPair left right pair).elim⟩

theorem relationshipGrammar_eq_nil (place : Pointer) (v : Json) :
    relationshipGrammar place v = [] ↔ RelationshipShape v := by
  simp only [relationshipGrammar, record_check_eq_nil, List.append_eq_nil_iff, requireName_eq_nil,
    requireText_eq_nil, allowText_eq_nil, requireArray_eq_nil joinKeyGrammar_eq_nil,
    relationshipShape_iff, and_assoc]

theorem metricGrammar_eq_nil (place : Pointer) (v : Json) :
    metricGrammar place v = [] ↔ MetricShape v := by
  simp only [metricGrammar, record_check_eq_nil, List.append_eq_nil_iff, requireName_eq_nil,
    requireText_eq_nil, allowText_eq_nil, requireArray_eq_nil (itemText_eq_nil _),
    metricShape_iff, and_assoc]

theorem dimensionGrammar_eq_nil (place : Pointer) (v : Json) :
    dimensionGrammar place v = [] ↔ DimensionShape v := by
  unfold dimensionGrammar
  simp only [record_check_eq_nil, List.append_eq_nil_iff, requireName_eq_nil, allowText_eq_nil,
    dimensionShape_iff, and_assoc]
  refine and_congr_right fun _ => and_congr_right fun _ => and_congr_right fun _ =>
    and_congr_right fun _ => ?_
  unfold Required
  cases v.get? "sourceProperty" with
  | none => simp
  | some x => cases x <;> simp [IsReference, Option.isSome_iff_ne_none]

theorem tablesGrammar_eq_nil (v : Json) : tablesGrammar v = [] ↔
    ∀ x, v.get? "tableMappings" = some x →
      ∃ entries, x = .obj entries ∧ ∀ entry ∈ entries, IsText entry.2 := by
  unfold tablesGrammar
  cases v.get? "tableMappings" with
  | none => simp
  | some x =>
    cases x with
    | obj entries => simp [List.flatMap_eq_nil_iff, itemText_eq_nil]
    | _ => simp

theorem mappingGrammar_eq_nil (v : Json) : mappingGrammar v = [] ↔ MappingShape v := by
  simp only [mappingGrammar, record_check_eq_nil, List.append_eq_nil_iff, requireText_eq_nil,
    allowText_eq_nil, tablesGrammar_eq_nil, mappingShape_iff, and_assoc]

theorem objectsGrammar_eq_nil (root : Json) : objectsGrammar root = [] ↔
    Required root "objects" fun x => x ≠ .arr [] ∧ IsArrayOf ObjectShape x := by
  unfold objectsGrammar
  split
  · rename_i found
    simp [Required, found]
  · rename_i notEmpty
    rw [requireArray_eq_nil objectGrammar_eq_nil]
    constructor
    · rintro ⟨x, found, shape⟩
      exact ⟨x, found, fun empty => notEmpty (empty ▸ found), shape⟩
    · rintro ⟨x, found, _, shape⟩
      exact ⟨x, found, shape⟩

/-- The grammar reports nothing exactly for documents of the stated shape. -/
theorem grammar_eq_nil (root : Json) : grammar root = [] ↔ DocumentShape root := by
  have mapping : ((root.get? "snowflake").map mappingGrammar).getD [] = [] ↔
      ∀ x, root.get? "snowflake" = some x → MappingShape x := by
    cases root.get? "snowflake" <;> simp [mappingGrammar_eq_nil]
  simp only [grammar, record_check_eq_nil, List.append_eq_nil_iff, requireText_eq_nil,
    allowText_eq_nil, objectsGrammar_eq_nil, allowArray_eq_nil relationshipGrammar_eq_nil,
    allowArray_eq_nil metricGrammar_eq_nil, allowArray_eq_nil dimensionGrammar_eq_nil, mapping,
    documentShape_iff, and_assoc]

/-! ### Items of a document -/

section Items
variable {root v : Json}

theorem DocumentShape.objects_shaped (shape : DocumentShape root) :
    ∀ v ∈ root.items "objects", ObjectShape v :=
  (shape.objects.imp fun _ => And.right).optional.items

theorem ObjectShape.properties_named (shape : ObjectShape v) :
    ∀ p ∈ v.items "properties", ∃ name, p.text? "name" = some name := fun p member =>
  ((shape.properties.optional.items p member).name.imp fun _ => IsName.isText).text

end Items

end SemanticLayer.Document
