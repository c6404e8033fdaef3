import SemanticLayer.Proofs.DocumentForm
import SemanticLayer.Proofs.JsonPointer

/-! Where findings point. The checks go through a document from its root, and each of them is given the place
of the value that it looks at; so a finding names a place that is there, or a field that a record lacks, and
what it shows is what stands there. Main statement: `findings_located`. It is about documents whose objects
have distinct keys, as all have that were read: under a key that stands twice only the first value is found. -/
namespace SemanticLayer.Document

open Json (Pointer)
open Json.Pointer

/-! ### Findings and their places -/

/-- The name of the kind of a value. -/
inductive KindName : Json → String → Prop
  | null : KindName .null "null"
  | bool (value : Bool) : KindName (.bool value) "boolean"
  | int (value : Int) : KindName (.int value) "number"
  | double (value : Binary64) : KindName (.double value) "number"
  | str (value : String) : KindName (.str value) "string"
  | arr (items : List Json) : KindName (.arr items) "array"
  | obj (members : List (String × Json)) : KindName (.obj members) "object"

/-- What a finding may show of a place in a document. -/
inductive Shows (root : Json) : Pointer → Option Json → Prop
  /-- A value stands there, and nothing is shown of it. -/
  | place {place : Pointer} {v : Json} (here : resolve? root place = some v) : Shows root place none
  /-- The value that stands there. -/
  | value {place : Pointer} {v : Json} (here : resolve? root place = some v) : Shows root place (some v)
  /-- The name of the kind of the value that stands there. -/
  | kind {place : Pointer} {v : Json} {name : String} (here : resolve? root place = some v)
      (named : KindName v name) : Shows root place (some (.str name))
  /-- A record that lacks the field of which is spoken. -/
  | missing {parent : Pointer} {members : List (String × Json)} {key : String}
      (here : resolve? root parent = some (.obj members)) (lacks : Keyed.get? key members = none) :
      Shows root (parent ++ [key]) none
  /-- A table of the mapping that is for no declared object; shown is its key. -/
  | undeclared {key : String} {v : Json}
      (here : resolve? root ["snowflake", "tableMappings", key] = some v)
      (unknown : ¬ Declares root key) :
      Shows root ["snowflake", "tableMappings", key] (some (.str key))

/-- The path of a finding is the text of a pointer, and what the finding shows fits to where that leads. -/
def Finding.Located (root : Json) (f : Finding) : Prop :=
  ∃ place, parse? f.path = some place ∧ Shows root place f.value

/-- All of some findings are located in a document. -/
def AllLocated (root : Json) (findings : List Finding) : Prop := ∀ f ∈ findings, f.Located root

section Findings
variable {root v : Json} {place : Pointer} {message key : String} {xs ys : List Finding}

theorem typeName_kind (v : Json) : KindName v v.typeName := by
  cases v <;> constructor

theorem allLocated_nil : AllLocated root [] := List.forall_mem_nil _

theorem allLocated_append : AllLocated root (xs ++ ys) ↔ AllLocated root xs ∧ AllLocated root ys :=
  List.forall_mem_append

theorem allLocated_singleton {f : Finding} : AllLocated root [f] ↔ f.Located root :=
  List.forall_mem_singleton

theorem finding_located (here : resolve? root place = some v) :
    AllLocated root [finding message place] :=
  allLocated_singleton.mpr ⟨place, parse?_render place, .place here⟩

theorem findingOf_located (here : resolve? root place = some v) :
    AllLocated root [findingOf message place v] :=
  allLocated_singleton.mpr ⟨place, parse?_render place, .value here⟩

theorem findingOfKind_located (here : resolve? root place = some v) :
    AllLocated root [findingOfKind message place v] :=
  allLocated_singleton.mpr ⟨place, parse?_render place, .kind here (typeName_kind v)⟩

theorem missing_located (here : resolve? root place = some v) (record : IsRecord v)
    (lacks : v.get? key = none) : AllLocated root [finding message (place ++ [key])] := by
  obtain ⟨members, rfl⟩ := record
  exact allLocated_singleton.mpr ⟨place ++ [key], parse?_render _, .missing here lacks⟩

end Findings

/-! ### Fields -/

section Fields
variable {root v x : Json} {place : Pointer} {key kind missing message : String} {i : Nat}
  {check : Pointer → Json → List Finding} {items : List Json}

theorem text?_eq_some {s : String} : v.text? key = some s ↔ v.get? key = some (.str s) := by
  unfold Json.text?
  cases v.get? key with
  | none => simp
  | some x => cases x <;> simp [Json.str?]

theorem str?_eq_some {s : String} : v.str? = some s ↔ v = .str s := by
  cases v <;> simp [Json.str?]

/-- The text of a field stands at the place of the field. -/
theorem resolve?_text {s : String} (here : resolve? root place = some v) (found : v.text? key = some s) :
    resolve? root (place ++ [key]) = some (.str s) :=
  resolve?_member here (text?_eq_some.mp found)

theorem requireName_located (here : resolve? root place = some v) (record : IsRecord v) :
    AllLocated root (requireName kind place v) := by
  unfold requireName
  cases found : v.get? "name" with
  | none => exact missing_located here record found
  | some x =>
    have there := resolve?_member here found
    cases x with
    | str name =>
      exact forall_mem_ite (findingOf_located there) allLocated_nil
    | _ => exact findingOf_located there

theorem requireText_located (here : resolve? root place = some v) (record : IsRecord v) :
    AllLocated root (requireText key place v) := by
  unfold requireText
  cases found : v.get? key with
  | none => exact missing_located here record found
  | some x =>
    have there := resolve?_member here found
    cases x with
    | str s => exact allLocated_nil
    | _ => exact findingOf_located there

theorem allowText_located (here : resolve? root place = some v) :
    AllLocated root (allowText key place v) := by
  unfold allowText
  cases found : v.get? key with
  | none => exact allLocated_nil
  | some x =>
    have there := resolve?_member here found
    cases x with
    | null => exact allLocated_nil
    | str s => exact allLocated_nil
    | _ => exact findingOf_located there

theorem allowFlag_located (here : resolve? root place = some v) :
    AllLocated root (allowFlag key place v) := by
  unfold allowFlag
  cases found : v.get? key with
  | none => exact allLocated_nil
  | some x =>
    have there := resolve?_member here found
    cases x with
    | null => exact allLocated_nil
    | bool b => exact allLocated_nil
    | _ => exact findingOf_located there

theorem itemText_located (message : String) (place : Pointer) (v : Json)
    (here : resolve? root place = some v) : AllLocated root (itemText message place v) :=
  forall_mem_ite allLocated_nil (findingOf_located here)

theorem checkItems_located (here : resolve? root place = some (.arr items))
    (each : ∀ place v, resolve? root place = some v → AllLocated root (check place v)) :
    AllLocated root (checkItems place check items) := by
  intro f member
  obtain ⟨i, v, found, reported⟩ := mem_checkItems.mp member
  exact each _ v (resolve?_item here found) f reported

theorem allowArray_located (here : resolve? root place = some v)
    (each : ∀ place v, resolve? root place = some v → AllLocated root (check place v)) :
    AllLocated root (allowArray key place v check) := by
  unfold allowArray
  cases found : v.get? key with
  | none => exact allLocated_nil
  | some x =>
    have there := resolve?_member here found
    cases x with
    | null => exact allLocated_nil
    | arr items => exact checkItems_located there each
    | _ => exact findingOfKind_located there

theorem requireArray_located (here : resolve? root place = some v) (record : IsRecord v)
    (each : ∀ place v, resolve? root place = some v → AllLocated root (check place v)) :
    AllLocated root (requireArray key missing place v check) := by
  unfold requireArray
  cases found : v.get? key with
  | none => exact missing_located here record found
  | some x =>
    have there := resolve?_member here found
    cases x with
    | arr items => exact checkItems_located there each
    | _ => exact findingOfKind_located there

/-- Only an array has items. -/
theorem items_of_get? (found : (v.items key)[i]? = some x) :
    v.get? key = some (.arr (v.items key)) := by
  unfold Json.items at found ⊢
  cases held : v.get? key with
  | none => simp [held] at found
  | some y =>
    cases y with
    | arr items => rfl
    | _ => simp [held, Json.arr?] at found

theorem resolve?_items (here : resolve? root place = some v) (found : (v.items key)[i]? = some x) :
    resolve? root (place ++ [key] ++ [toString i]) = some x :=
  resolve?_item (resolve?_member here (items_of_get? found)) found

/-- What is checked of the items of a field is located if it is for each of them at its place. -/
theorem items_located (here : resolve? root place = some v)
    (each : ∀ place v, resolve? root place = some v → AllLocated root (check place v)) :
    AllLocated root (checkItems (place ++ [key]) check (v.items key)) := by
  intro f member
  obtain ⟨i, x, found, reported⟩ := mem_checkItems.mp member
  exact each _ x (resolve?_items here found) f reported

end Fields

/-! ### The grammar -/

section Grammar
variable {root v : Json} {place : Pointer}

/-- What is checked of records only is located if it is for records; what is no record is shown by its
kind. -/
theorem record_located {message : String} {checks : List Finding} (here : resolve? root place = some v)
    (inside : IsRecord v → AllLocated root checks) :
    AllLocated root (if v.isObj then checks else [findingOfKind message place v]) := by
  split
  · rename_i record
    exact inside (isObj_iff.mp record)
  · exact findingOfKind_located here

theorem propertyGrammar_located (place : Pointer) (v : Json) (here : resolve? root place = some v) :
    AllLocated root (propertyGrammar place v) := by
  apply record_located here
  intro record
  simp only [allLocated_append, and_assoc]
  refine ⟨requireName_located here record, ?_, allowText_located here, allowFlag_located here,
    allowFlag_located here⟩
  cases found : v.get? "type" with
  | none => exact missing_located here record found
  | some x =>
    have there := resolve?_member here found
    cases x with
    | str s => exact allLocated_nil
    | _ => exact findingOf_located there

theorem objectGrammar_located (place : Pointer) (v : Json) (here : resolve? root place = some v) :
    AllLocated root (objectGrammar place v) := by
  apply record_located here
  intro record
  simp only [allLocated_append, and_assoc]
  exact ⟨requireName_located here record, allowText_located here, allowText_located here,
    allowText_located here, allowText_located here, allowArray_located here (itemText_located _),
    requireArray_located here record propertyGrammar_located⟩

theorem joinKeyGrammar_located (place : Pointer) (v : Json) (here : resolve? root place = some v) :
    AllLocated root (joinKeyGrammar place v) := by
  unfold joinKeyGrammar
  split
  · exact allLocated_nil
  · exact findingOf_located here

theorem relationshipGrammar_located (place : Pointer) (v : Json) (here : resolve? root place = some v) :
    AllLocated root (relationshipGrammar place v) := by
  apply record_located here
  intro record
  simp only [allLocated_append, and_assoc]
  exact ⟨requireName_located here record, requireText_located here record,
    requireText_located here record, allowText_located here, allowText_located here,
    requireArray_located here record joinKeyGrammar_located⟩

theorem metricGrammar_located (place : Pointer) (v : Json) (here : resolve? root place = some v) :
    AllLocated root (metricGrammar place v) := by
  apply record_located here
  intro record
  simp only [allLocated_append, and_assoc]
  exact ⟨requireName_located here record, requireText_located here record, allowText_located here,
    allowText_located here, allowText_located here,
    requireArray_located here record (itemText_located _)⟩

theorem dimensionGrammar_located (place : Pointer) (v : Json) (here : resolve? root place = some v) :
    AllLocated root (dimensionGrammar place v) := by
  apply record_located here
  intro record
  simp only [allLocated_append, and_assoc]
  refine ⟨requireName_located here record, allowText_located here, allowText_located here, ?_⟩
  cases found : v.get? "sourceProperty" with
  | none => exact missing_located here record found
  | some x =>
    have there := resolve?_member here found
    cases x with
    | str raw =>
      exact forall_mem_ite allLocated_nil (findingOf_located there)
    | _ => exact findingOf_located there

/-- Tables are found under their keys if these are distinct. -/
theorem tablesGrammar_located (here : resolve? root ["snowflake"] = some v)
    (distinct : ∀ entries, v.get? "tableMappings" = some (.obj entries) → (entries.map Prod.fst).Nodup) :
    AllLocated root (tablesGrammar v) := by
  unfold tablesGrammar
  cases found : v.get? "tableMappings" with
  | none => exact allLocated_nil
  | some x =>
    have there : resolve? root ["snowflake", "tableMappings"] = some x := resolve?_member here found
    cases x with
    | obj entries =>
      intro f member
      obtain ⟨⟨key, table⟩, listed, reported⟩ := List.mem_flatMap.mp member
      have held : Keyed.get? key entries = some table := Keyed.get?_of_mem (distinct entries found) listed
      exact itemText_located _ _ _ (resolve?_member there held) f reported
    | _ => exact findingOfKind_located there

theorem mappingGrammar_located (here : resolve? root ["snowflake"] = some v)
    (distinct : ∀ entries, v.get? "tableMappings" = some (.obj entries) → (entries.map Prod.fst).Nodup) :
    AllLocated root (mappingGrammar v) := by
  apply record_located here
  intro record
  simp only [allLocated_append, and_assoc]
  exact ⟨requireText_located here record, requireText_located here record, allowText_located here,
    tablesGrammar_located here distinct⟩

theorem objectsGrammar_located (record : IsRecord root) : AllLocated root (objectsGrammar root) := by
  have here : resolve? root [] = some root := rfl
  unfold objectsGrammar
  split
  · rename_i found
    exact finding_located (resolve?_member here found)
  · exact requireArray_located here record objectGrammar_located

theorem grammar_located (distinct : ∀ mapping entries, root.get? "snowflake" = some mapping →
      mapping.get? "tableMappings" = some (.obj entries) → (entries.map Prod.fst).Nodup) :
    AllLocated root (grammar root) := by
  have here : resolve? root [] = some root := rfl
  apply record_located here
  intro record
  simp only [allLocated_append, and_assoc]
  refine ⟨requireText_located here record, allowText_located here, allowText_located here,
    objectsGrammar_located record, allowArray_located here relationshipGrammar_located,
    allowArray_located here metricGrammar_located, allowArray_located here dimensionGrammar_located, ?_⟩
  cases found : root.get? "snowflake" with
  | none => exact allLocated_nil
  | some mapping =>
    exact mappingGrammar_located (resolve?_member here found) fun entries => distinct mapping entries found

end Grammar

/-! ### References -/

section References
variable {root v : Json} {place : Pointer} {scope : Scope}

theorem endReference_located {key role : String} (here : resolve? root place = some v) :
    AllLocated root (endReference scope place v key role) := by
  unfold endReference
  cases found : v.text? key with
  | none => exact allLocated_nil
  | some object =>
    exact forall_mem_ite allLocated_nil (findingOf_located (resolve?_text here found))

theorem relationshipReferences_located (place : Pointer) (v : Json)
    (here : resolve? root place = some v) : AllLocated root (relationshipReferences scope place v) :=
  allLocated_append.mpr ⟨endReference_located here, endReference_located here⟩

theorem grainReferences_located (place : Pointer) (v : Json) (here : resolve? root place = some v) :
    AllLocated root (grainReferences scope place v) := by
  apply items_located here
  intro place entry there
  cases text : entry.str? with
  | none => exact allLocated_nil
  | some object =>
    rw [str?_eq_some.mp text] at there
    exact forall_mem_ite allLocated_nil (findingOf_located there)

theorem sourceReference_located (place : Pointer) (v : Json) (here : resolve? root place = some v) :
    AllLocated root (sourceReference scope place v) := by
  unfold sourceReference
  cases found : v.text? "sourceProperty" with
  | none => exact allLocated_nil
  | some source =>
    have there := resolve?_text here found
    dsimp only
    cases splitReference? source with
    | none => exact allLocated_nil
    | some parts =>
      exact forall_mem_ite (findingOf_located there)
        (forall_mem_ite (findingOf_located there) allLocated_nil)

theorem references_located : AllLocated root (references scope root) := by
  have here : resolve? root [] = some root := rfl
  simp only [references, allLocated_append, and_assoc]
  exact ⟨items_located here relationshipReferences_located, items_located here grainReferences_located,
    items_located here sourceReference_located⟩

theorem joinKeyReference_located {rel : Json} {object property : String}
    (here : resolve? root place = some (.str property)) :
    AllLocated root (joinKeyReference scope rel place object property) :=
  forall_mem_ite allLocated_nil (findingOf_located here)

/-- The texts of a pair are the first two items of an array. -/
theorem textPair?_eq_some {pair : Json} {left right : String} (texts : pair.textPair? = some (left, right)) :
    ∃ items, pair = .arr items ∧ items[0]? = some (.str left) ∧ items[1]? = some (.str right) := by
  cases pair with
  | arr items =>
    simp only [Json.textPair?, Json.item?, bind, Option.bind_eq_some_iff, pure, Option.some.injEq,
      Prod.mk.injEq, str?_eq_some] at texts
    obtain ⟨_, ⟨_, first, rfl⟩, _, ⟨_, second, rfl⟩, rfl, rfl⟩ := texts
    exact ⟨items, rfl, first, second⟩
  | _ => simp [Json.textPair?, Json.item?] at texts

theorem joinKeyReferences_located (place : Pointer) (v : Json) (here : resolve? root place = some v) :
    AllLocated root (joinKeyReferences scope place v) := by
  unfold joinKeyReferences
  split
  · rename_i source target _ _
    apply items_located here
    intro place pair there
    cases texts : pair.textPair? with
    | none => exact allLocated_nil
    | some keys =>
      obtain ⟨left, right⟩ := keys
      obtain ⟨items, rfl, first, second⟩ := textPair?_eq_some texts
      exact allLocated_append.mpr ⟨joinKeyReference_located (resolve?_item there first),
        joinKeyReference_located (resolve?_item there second)⟩
  · exact allLocated_nil

theorem tableReferences_located (here : resolve? root ["snowflake"] = some v) :
    AllLocated root (tableReferences (Scope.ofDocument root) v) := by
  unfold tableReferences
  cases found : v.get? "tableMappings" with
  | none => exact allLocated_nil
  | some x =>
    have there : resolve? root ["snowflake", "tableMappings"] = some x := resolve?_member here found
    cases x with
    | obj entries =>
      intro f member
      obtain ⟨⟨key, table⟩, listed, reported⟩ := List.mem_flatMap.mp member
      obtain ⟨held, stands⟩ := Option.isSome_iff_exists.mp
        (Keyed.get?_isSome.mpr (List.mem_map_of_mem (f := Prod.fst) listed))
      by_cases known : (Scope.ofDocument root).hasObject key = true
      · simp [known] at reported
      · have unknown : ¬ Declares root key := fun declared => known (hasObject_iff.mpr declared)
        simp only [known, Bool.false_eq_true, ↓reduceIte, List.mem_singleton] at reported
        rw [reported]
        exact ⟨_, parse?_render _, .undeclared (resolve?_member there stands) unknown⟩
    | _ => exact allLocated_nil

theorem mappingReferences_located :
    AllLocated root (mappingReferences (Scope.ofDocument root) root) := by
  have here : resolve? root [] = some root := rfl
  unfold mappingReferences
  split
  · exact allLocated_nil
  · rename_i mapping held
    have found : root.get? "snowflake" = some mapping := (Option.filter_eq_some_iff.mp held).1
    exact allLocated_append.mpr ⟨items_located here joinKeyReferences_located,
      tableReferences_located (resolve?_member here found)⟩

end References

/-! ### Names and words -/

section Names
variable {root v : Json} {place : Pointer}

theorem duplicateNames_located (key kind : String) : AllLocated root (duplicateNames key kind root) := by
  have here : resolve? root [] = some root := rfl
  intro f member
  obtain ⟨index, entry, name, found, named, reported⟩ := mem_reportNamed.mp member
  split at reported
  · cases reported
  · exact findingOf_located (resolve?_text (resolve?_items here found) named) f reported

theorem propertyNames_located {object name : String} {index : Nat} {first : Option Nat}
    (here : resolve? root (place ++ ["properties", toString index]) = some v)
    (named : v.text? "name" = some name) :
    AllLocated root (propertyNames object place index v name first) := by
  apply allLocated_append.mpr
  constructor
  · cases first with
    | none => exact allLocated_nil
    | some first => exact findingOf_located (resolve?_text here named)
  · cases found : v.text? "type" with
    | none => exact allLocated_nil
    | some raw =>
      exact forall_mem_ite allLocated_nil (findingOf_located (resolve?_text here found))

theorem objectNames_located (place : Pointer) (v : Json) (here : resolve? root place = some v) :
    AllLocated root (objectNames place v) := by
  apply allLocated_append.mpr
  constructor
  · intro f member
    obtain ⟨index, property, name, found, named, reported⟩ := mem_reportNamed.mp member
    have there := resolve?_items here found
    rw [List.append_assoc] at there
    exact propertyNames_located there named f reported
  · apply items_located here
    intro place identifier there
    cases text : identifier.str? with
    | none => exact allLocated_nil
    | some name =>
      rw [str?_eq_some.mp text] at there
      exact forall_mem_ite allLocated_nil (findingOf_located there)

theorem cardinalityWord_located (place : Pointer) (v : Json) (here : resolve? root place = some v) :
    AllLocated root (cardinalityWord place v) := by
  unfold cardinalityWord
  cases found : v.text? "cardinality" with
  | none => exact allLocated_nil
  | some raw =>
    exact forall_mem_ite allLocated_nil (findingOf_located (resolve?_text here found))

theorem metricWords_located (place : Pointer) (v : Json) (here : resolve? root place = some v) :
    AllLocated root (metricWords place v) := by
  apply allLocated_append.mpr
  constructor
  · split
    · rename_i found
      exact finding_located (resolve?_member here found)
    · exact allLocated_nil
  · cases found : v.text? "type" with
    | none => exact allLocated_nil
    | some raw =>
      exact forall_mem_ite allLocated_nil (findingOf_located (resolve?_text here found))

theorem names_located : AllLocated root (names root) := by
  have here : resolve? root [] = some root := rfl
  simp only [names, allLocated_append, and_assoc]
  exact ⟨duplicateNames_located _ _, duplicateNames_located _ _, duplicateNames_located _ _,
    duplicateNames_located _ _, items_located here objectNames_located,
    items_located here cardinalityWord_located, items_located here metricWords_located⟩

end Names

/-! ### Documents -/

/-- The keys of a read object increase. -/
theorem orderedMembers_keys {last : Option String} {members : List (String × Json)}
    (read : Json.orderedMembers last members = true) :
    (∀ l ∈ last, ∀ key ∈ members.map Prod.fst, l < key) ∧
      (members.map Prod.fst).Pairwise (· < ·) := by
  induction members generalizing last with
  | nil => exact ⟨fun _ _ _ member => (List.not_mem_nil member).elim, List.Pairwise.nil⟩
  | cons entry rest ih =>
    obtain ⟨key, v⟩ := entry
    simp only [Json.orderedMembers, Bool.and_eq_true] at read
    obtain ⟨⟨after, _⟩, later⟩ := read
    obtain ⟨bound, increasing⟩ := ih later
    refine ⟨?_, List.pairwise_cons.mpr ⟨bound key rfl, increasing⟩⟩
    intro l here other member
    cases here
    have before : l < key := by simpa using after
    rcases List.mem_cons.mp member with rfl | member
    · exact before
    · exact String.lt_trans before (bound key rfl other member)

theorem ordered_keys {members : List (String × Json)} (read : (Json.obj members).ordered = true) :
    (members.map Prod.fst).Nodup := by
  rw [Json.ordered] at read
  exact (orderedMembers_keys read).2.imp fun less => less.ne

theorem orderedMembers_get? {last : Option String} {members : List (String × Json)} {key : String}
    {x : Json} (read : Json.orderedMembers last members = true)
    (found : Keyed.get? key members = some x) : x.ordered = true := by
  induction members generalizing last with
  | nil => cases found
  | cons entry rest ih =>
    obtain ⟨k, v⟩ := entry
    simp only [Json.orderedMembers, Bool.and_eq_true] at read
    by_cases same : k = key
    · simp only [Keyed.get?, same, ↓reduceIte, Option.some.injEq] at found
      exact found ▸ read.1.2
    · simp only [Keyed.get?, same, ↓reduceIte] at found
      exact ih read.2 found

/-- The members of a read value are such values themselves. -/
theorem ordered_get? {v x : Json} {key : String} (read : v.ordered = true)
    (found : v.get? key = some x) : x.ordered = true := by
  cases v with
  | obj members =>
    rw [Json.ordered] at read
    exact orderedMembers_get? read found
  | _ => cases found

/-- Every finding on a document has a pointer for its path. That leads to a value of the document, of which
the finding shows nothing, the value or its kind, or if it is a table for an undeclared object, its key; or
it leads to a field that a record of the document lacks, and then nothing is shown. -/
theorem findings_located (root : Json) (read : root.ordered = true) :
    ∀ f ∈ (validate root).findings, f.Located root := by
  have distinct : ∀ mapping entries, root.get? "snowflake" = some mapping →
      mapping.get? "tableMappings" = some (.obj entries) → (entries.map Prod.fst).Nodup := by
    intro mapping entries mapped held
    exact ordered_keys (ordered_get? (ordered_get? read mapped) held)
  show AllLocated root (validate root).findings
  rw [findings_eq]
  simp only [allLocated_append, and_assoc]
  exact ⟨grammar_located distinct, references_located, names_located, mappingReferences_located⟩

/-- A document with two orders, the second without properties, and a table for an object of a strange name. -/
def strayTable : Json :=
  .obj [
    ("objects", .arr [
      .obj [("name", .str "Order"), ("properties", .arr [])],
      .obj [("name", .str "Order")]]),
    ("snowflake", .obj [("database", .null), ("tableMappings", .obj [("a/b~c", .int 1)])]),
    ("version", .str "1")]

theorem stray_table_located : strayTable.ordered = true ∧
    (validate strayTable).findings.map Finding.path =
      ["/objects/1/properties", "/snowflake/database", "/snowflake/schema",
        "/snowflake/tableMappings/a~1b~0c", "/objects/1/name", "/snowflake/tableMappings/a~1b~0c"] ∧
    ∀ f ∈ (validate strayTable).findings, f.Located strayTable :=
  ⟨by decide, by decide, findings_located strayTable (by decide)⟩

end SemanticLayer.Document
