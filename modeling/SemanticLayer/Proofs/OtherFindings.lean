import SemanticLayer.Proofs.DocumentForm

/-! What else a document is told than that a name is a duplicate. A message that a name is one starts with a word that
no other message starts with: two texts that differ at a place do so however they go on (`Otherwise.append`), and
every other message starts with words of its own. Of what is said about names and words, only what is said about
duplicates is left when all else is taken out. Main statement: `findings_duplicates`. -/
namespace SemanticLayer.Document

open Json (Pointer)

/-! ### Messages -/

/-- How a message starts that says that a name is a duplicate. -/
def duplicateWord : String := "Duplicate "

/-- Whether a finding says that a name is a duplicate. -/
def Finding.isDuplicate (f : Finding) : Bool := Text.startsWith duplicateWord.toList f.message.toList

/-- Whether two texts differ at a place that both have. -/
def differ : List Char → List Char → Bool
  | c :: cs, d :: ds => c != d || differ cs ds
  | _, _ => false

theorem differ_append {cs ds : List Char} (apart : differ cs ds = true) (more : List Char) :
    differ cs (ds ++ more) = true := by
  induction cs generalizing ds with
  | nil => cases ds <;> cases apart
  | cons c cs ih =>
    cases ds with
    | nil => cases apart
    | cons d ds =>
      rw [List.cons_append, differ, Bool.or_eq_true] at *
      exact apart.imp_right ih

theorem not_startsWith_of_differ {cs ds : List Char} (apart : differ cs ds = true) :
    Text.startsWith cs ds = false := by
  induction cs generalizing ds with
  | nil => cases ds <;> cases apart
  | cons c cs ih =>
    cases ds with
    | nil => cases apart
    | cons d ds =>
      rw [differ, Bool.or_eq_true, bne_iff_ne] at apart
      rw [Text.startsWith, List.isPrefixOf, Bool.and_eq_false_imp, beq_iff_eq]
      intro same
      exact ih (apart.resolve_left fun different => different same)

/-- A message that starts otherwise than those about duplicates. -/
def Otherwise (message : String) : Prop := differ duplicateWord.toList message.toList = true

instance (message : String) : Decidable (Otherwise message) := inferInstanceAs (Decidable (_ = true))

@[simp] theorem Otherwise.append {start : String} (apart : Otherwise start) (rest : String) :
    Otherwise (start ++ rest) := by
  rw [Otherwise, String.toList_append]
  exact differ_append apart _

@[simp] theorem otherwise_toString {text : String} : Otherwise (toString text) ↔ Otherwise text := Iff.rfl

/-- No finding says that a name is a duplicate. -/
def AllOther (findings : List Finding) : Prop := ∀ f ∈ findings, Otherwise f.message

theorem filter_other {findings : List Finding} (other : AllOther findings) :
    findings.filter Finding.isDuplicate = [] := by
  rw [List.filter_eq_nil_iff]
  intro f member
  rw [Finding.isDuplicate, not_startsWith_of_differ (other f member)]
  exact Bool.false_ne_true

theorem isDuplicate_findingOf {start rest : String} {place : Pointer} {v : Json}
    (worded : Text.startsWith duplicateWord.toList start.toList = true) :
    (findingOf (start ++ rest) place v).isDuplicate = true := by
  rw [Finding.isDuplicate, findingOf, String.toList_append]
  exact List.isPrefixOf_iff_prefix.mpr ((List.isPrefixOf_iff_prefix.mp worded).trans (List.prefix_append _ _))

section Findings
variable {message : String} {place : Pointer} {v : Json} {xs ys : List Finding}

@[simp] theorem allOther_nil : AllOther [] := List.forall_mem_nil _

@[simp] theorem allOther_append : AllOther (xs ++ ys) ↔ AllOther xs ∧ AllOther ys := List.forall_mem_append

@[simp] theorem allOther_finding : AllOther [finding message place] ↔ Otherwise message :=
  List.forall_mem_singleton

@[simp] theorem allOther_findingOf : AllOther [findingOf message place v] ↔ Otherwise message :=
  List.forall_mem_singleton

@[simp] theorem allOther_findingOfKind : AllOther [findingOfKind message place v] ↔ Otherwise message :=
  List.forall_mem_singleton

theorem filter_append_other (other : AllOther ys) :
    (xs ++ ys).filter Finding.isDuplicate = xs.filter Finding.isDuplicate := by
  rw [List.filter_append, filter_other other, List.append_nil]

theorem allOther_flatMap {items : List α} {check : α → List Finding} (each : ∀ x ∈ items, AllOther (check x)) :
    AllOther (items.flatMap check) := by
  intro f member
  obtain ⟨x, listed, reported⟩ := List.mem_flatMap.mp member
  exact each x listed f reported

theorem checkItems_other {check : Pointer → Json → List Finding} {items : List Json}
    (each : ∀ place v, AllOther (check place v)) : AllOther (checkItems place check items) :=
  allOther_flatMap fun _ _ => each _ _

end Findings

/-! ### The grammar -/

section Grammar
variable {place : Pointer} {v : Json} {key kind message missing : String}
  {check : Pointer → Json → List Finding}

theorem requireName_other (apart : Otherwise kind) : AllOther (requireName kind place v) := by
  unfold requireName
  split
  · simp [apart]
  · split <;> simp [apart]
  · simp [apart]

theorem requireText_other : AllOther (requireText key place v) := by
  unfold requireText
  split <;> simp +decide

theorem allowText_other : AllOther (allowText key place v) := by
  unfold allowText
  split <;> simp +decide

theorem allowFlag_other : AllOther (allowFlag key place v) := by
  unfold allowFlag
  split <;> simp +decide

theorem itemText_other (apart : Otherwise message) (place : Pointer) (v : Json) :
    AllOther (itemText message place v) :=
  forall_mem_ite allOther_nil (allOther_findingOf.mpr apart)

theorem allowArray_other (each : ∀ place v, AllOther (check place v)) : AllOther (allowArray key place v check) := by
  unfold allowArray
  split
  · exact allOther_nil
  · exact allOther_nil
  · exact checkItems_other each
  · simp +decide

theorem requireArray_other (apart : Otherwise missing) (each : ∀ place v, AllOther (check place v)) :
    AllOther (requireArray key missing place v check) := by
  unfold requireArray
  split
  · exact allOther_finding.mpr apart
  · exact checkItems_other each
  · simp +decide

/-- What is checked of records only, or that they are none. -/
theorem record_other {checks : List Finding} (apart : Otherwise message) (inside : AllOther checks) :
    AllOther (if v.isObj then checks else [findingOfKind message place v]) :=
  forall_mem_ite inside (allOther_findingOfKind.mpr apart)

theorem propertyGrammar_other (place : Pointer) (v : Json) : AllOther (propertyGrammar place v) := by
  apply record_other (by decide)
  simp only [allOther_append, and_assoc]
  refine ⟨requireName_other (by decide), ?_, allowText_other, allowFlag_other, allowFlag_other⟩
  split <;> simp +decide

theorem objectGrammar_other (place : Pointer) (v : Json) : AllOther (objectGrammar place v) := by
  apply record_other (by decide)
  simp only [allOther_append, and_assoc]
  exact ⟨requireName_other (by decide), allowText_other, allowText_other, allowText_other, allowText_other,
    allowArray_other (itemText_other (by decide)), requireArray_other (by simp +decide) propertyGrammar_other⟩

theorem joinKeyGrammar_other (place : Pointer) (v : Json) : AllOther (joinKeyGrammar place v) := by
  unfold joinKeyGrammar
  split <;> simp +decide

theorem relationshipGrammar_other (place : Pointer) (v : Json) : AllOther (relationshipGrammar place v) := by
  apply record_other (by decide)
  simp only [allOther_append, and_assoc]
  exact ⟨requireName_other (by decide), requireText_other, requireText_other, allowText_other, allowText_other,
    requireArray_other (by decide) joinKeyGrammar_other⟩

theorem metricGrammar_other (place : Pointer) (v : Json) : AllOther (metricGrammar place v) := by
  apply record_other (by decide)
  simp only [allOther_append, and_assoc]
  exact ⟨requireName_other (by decide), requireText_other, allowText_other, allowText_other, allowText_other,
    requireArray_other (by decide) (itemText_other (by decide))⟩

theorem dimensionGrammar_other (place : Pointer) (v : Json) : AllOther (dimensionGrammar place v) := by
  apply record_other (by decide)
  simp only [allOther_append, and_assoc]
  refine ⟨requireName_other (by decide), allowText_other, allowText_other, ?_⟩
  split
  · simp +decide
  · split <;> simp +decide
  · simp +decide

theorem tablesGrammar_other : AllOther (tablesGrammar v) := by
  unfold tablesGrammar
  split
  · exact allOther_nil
  · exact allOther_flatMap fun _ _ => itemText_other (by decide) _ _
  · simp +decide

theorem mappingGrammar_other : AllOther (mappingGrammar v) := by
  apply record_other (by decide)
  simp only [allOther_append, and_assoc]
  exact ⟨requireText_other, requireText_other, allowText_other, tablesGrammar_other⟩

theorem objectsGrammar_other : AllOther (objectsGrammar v) := by
  unfold objectsGrammar
  split
  · simp +decide
  · exact requireArray_other (by decide) objectGrammar_other

theorem grammar_other (root : Json) : AllOther (grammar root) := by
  apply record_other (by decide)
  simp only [allOther_append, and_assoc]
  refine ⟨requireText_other, allowText_other, allowText_other, objectsGrammar_other,
    allowArray_other relationshipGrammar_other, allowArray_other metricGrammar_other,
    allowArray_other dimensionGrammar_other, ?_⟩
  cases root.get? "snowflake" with
  | none => exact allOther_nil
  | some mapping => exact mappingGrammar_other

end Grammar

/-! ### References -/

section References
variable {scope : Scope} {place : Pointer} {v root : Json}

theorem endReference_other {key role : String} : AllOther (endReference scope place v key role) := by
  unfold endReference
  split
  · exact allOther_nil
  · split <;> simp +decide [String.append_assoc]

theorem relationshipReferences_other (place : Pointer) (v : Json) :
    AllOther (relationshipReferences scope place v) :=
  allOther_append.mpr ⟨endReference_other, endReference_other⟩

theorem grainReferences_other (place : Pointer) (v : Json) : AllOther (grainReferences scope place v) := by
  apply checkItems_other
  intro place entry
  split
  · exact allOther_nil
  · split <;> simp +decide [String.append_assoc]

theorem sourceReference_other (place : Pointer) (v : Json) : AllOther (sourceReference scope place v) := by
  unfold sourceReference
  split
  · exact allOther_nil
  · split
    · exact allOther_nil
    · dsimp only
      split
      · simp +decide [String.append_assoc]
      · split <;> simp +decide [String.append_assoc]

theorem references_other : AllOther (references scope root) := by
  simp only [references, allOther_append]
  exact ⟨⟨checkItems_other relationshipReferences_other, checkItems_other grainReferences_other⟩,
    checkItems_other sourceReference_other⟩

theorem joinKeyReference_other {object property : String} :
    AllOther (joinKeyReference scope v place object property) := by
  unfold joinKeyReference
  split <;> simp +decide [String.append_assoc]

theorem joinKeyReferences_other (place : Pointer) (v : Json) : AllOther (joinKeyReferences scope place v) := by
  unfold joinKeyReferences
  split
  · apply checkItems_other
    intro place pair
    split
    · exact allOther_append.mpr ⟨joinKeyReference_other, joinKeyReference_other⟩
    · exact allOther_nil
  · exact allOther_nil

theorem tableReferences_other : AllOther (tableReferences scope v) := by
  apply allOther_flatMap
  intro entry _
  dsimp only
  split <;> simp +decide [String.append_assoc]

theorem mappingReferences_other : AllOther (mappingReferences scope root) := by
  unfold mappingReferences
  split
  · exact allOther_nil
  · exact allOther_append.mpr ⟨checkItems_other joinKeyReferences_other, tableReferences_other⟩

end References

/-! ### Names and words -/

section Names
variable {place : Pointer} {v root : Json}

theorem cardinalityWord_other (place : Pointer) (v : Json) : AllOther (cardinalityWord place v) := by
  unfold cardinalityWord
  split
  · exact allOther_nil
  · split <;> simp +decide [String.append_assoc]

theorem metricWords_other (place : Pointer) (v : Json) : AllOther (metricWords place v) := by
  apply allOther_append.mpr
  constructor
  · split <;> simp +decide [String.append_assoc]
  · split
    · exact allOther_nil
    · split <;> simp +decide [String.append_assoc]

/-- Of the names and types of properties, only the names can be duplicates. -/
theorem propertyNames_duplicates {object name : String} {index : Nat} {first : Option Nat} :
    (propertyNames object place index v name first).filter Finding.isDuplicate =
      match first with
      | none => []
      | some first =>
        [findingOf (s!"Duplicate property name '{name}' on object '{object}' "
          ++ s!"(first defined at index {first})") (place ++ ["properties", toString index, "name"]) (.str name)] := by
  unfold propertyNames
  refine (filter_append_other ?_).trans ?_
  · split
    · exact allOther_nil
    · split <;> simp +decide [String.append_assoc]
  · cases first with
    | none => rfl
    | some first => simp +decide [isDuplicate_findingOf, String.append_assoc]

/-- Nothing else about an object says that a name is a duplicate. -/
theorem objectNames_duplicates : (objectNames place v).filter Finding.isDuplicate =
    reportNamed (fun index property name first =>
      (propertyNames (nameOf v) place index property name first).filter Finding.isDuplicate) []
      (v.items "properties").zipIdx := by
  refine (filter_append_other (checkItems_other fun place identifier => ?_)).trans (filter_reportNamed _ _)
  split
  · exact allOther_nil
  · split <;> simp +decide [String.append_assoc]

/-- What a document is told about duplicates: of the names of its objects, relationships, metrics and
dimensions, and of the properties of each object. -/
theorem findings_duplicates (root : Json) : (validate root).findings.filter Finding.isDuplicate =
    duplicateNames "objects" "object" root ++ duplicateNames "relationships" "relationship" root
      ++ duplicateNames "metrics" "metric" root ++ duplicateNames "dimensions" "dimension" root
      ++ (indexed (root.items "objects")).flatMap fun (index, object) =>
        (objectNames ["objects", index] object).filter Finding.isDuplicate := by
  have kept (key kind : String) :
      (duplicateNames key kind root).filter Finding.isDuplicate = duplicateNames key kind root := by
    rw [List.filter_eq_self]
    intro f member
    obtain ⟨_, _, _, _, _, reported⟩ := mem_reportNamed.mp member
    split at reported
    · cases reported
    · rw [List.mem_singleton.mp reported]
      simp +decide [isDuplicate_findingOf, String.append_assoc]
  rw [findings_eq]
  refine (filter_append_other mappingReferences_other).trans ?_
  rw [List.filter_append, List.filter_append, filter_other (grammar_other root), filter_other references_other]
  unfold names
  refine (filter_append_other (checkItems_other metricWords_other)).trans ?_
  refine (filter_append_other (checkItems_other cardinalityWord_other)).trans ?_
  simp only [List.filter_append, kept]
  exact congrArg _ List.filter_flatMap

end Names
end SemanticLayer.Document
