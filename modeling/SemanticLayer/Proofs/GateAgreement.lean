import SemanticLayer.Evaluation.Check
import SemanticLayer.Proofs.JsonPointer
import SemanticLayer.Proofs.WellFormed

/-! The gates ask of an ontology what the validator asks of the document that describes it. A gate passes just
if the ontology has the invariants that it is about; a pass of the validator is silent about a kind of place
just if the document follows the rules for it. Between the two stands normalization, which loses nothing of a
document of the right shape. Main statement: `gates_agree`. -/
namespace SemanticLayer

/-! ### What gates ask of an ontology -/

namespace Check
variable {o : Ontology} {r : Relationship} {m : Metric} {d : Dimension}

theorem object?_isSome {name : String} : (o.object? name).isSome = true ↔ name ∈ o.objectNames :=
  find?_name_isSome

theorem unresolvedEnds_eq_nil : unresolvedEnds o r = [] ↔
    r.source ∈ o.objectNames ∧ r.target ∈ o.objectNames := by
  unfold unresolvedEnds
  rw [← object?_isSome, ← object?_isSome]
  simp [List.filterMap_eq_nil_iff, Option.isSome_iff_ne_none]

theorem unresolvedGrain_eq_nil : unresolvedGrain o m = [] ↔
    ∀ object ∈ m.grain, object ∈ o.objectNames := by
  unfold unresolvedGrain
  simp only [← object?_isSome]
  simp [List.filterMap_eq_nil_iff, Option.isSome_iff_ne_none]

theorem unresolvedSource_eq_nil : unresolvedSource o d = [] ↔
    ∃ object property, d.source? = some (object, property) ∧ o.Exposes object property := by
  unfold unresolvedSource Ontology.Exposes
  cases d.source? with
  | none => simp
  | some parts =>
    obtain ⟨object, property⟩ := parts
    cases found : o.object? object with
    | none => simp [found]
    | some x => by_cases held : x.hasProperty property = true <;> simp [found, held]

theorem noUnresolvedReferences_pass : (noUnresolvedReferences o).outcome = .pass ↔
    (∀ r ∈ o.relationships, r.source ∈ o.objectNames ∧ r.target ∈ o.objectNames) ∧
    (∀ m ∈ o.metrics, ∀ object ∈ m.grain, object ∈ o.objectNames) ∧
    ∀ d ∈ o.dimensions, ∃ object property,
      d.source? = some (object, property) ∧ o.Exposes object property := by
  have passes : (noUnresolvedReferences o).outcome = .pass ↔ unresolved o = [] := by
    unfold noUnresolvedReferences
    cases unresolved o <;> simp
  rw [passes, unresolved]
  simp only [List.append_eq_nil_iff, List.flatMap_eq_nil_iff, unresolvedEnds_eq_nil,
    unresolvedGrain_eq_nil, unresolvedSource_eq_nil, and_assoc]

theorem grainViolations_eq_nil : grainViolations o m = [] ↔
    m.grain ≠ [] ∧ ∀ object ∈ m.grain, object ∈ o.objectNames := by
  unfold grainViolations
  simp only [← object?_isSome]
  cases m.grain <;> simp [List.filterMap_eq_nil_iff, Option.isSome_iff_ne_none]

theorem metricGrainConsistency_pass : (metricGrainConsistency o).outcome = .pass ↔
    ∀ m ∈ o.metrics, m.grain ≠ [] ∧ ∀ object ∈ m.grain, object ∈ o.objectNames := by
  have passes : (metricGrainConsistency o).outcome = .pass ↔
      o.metrics.flatMap (grainViolations o) = [] := by
    unfold metricGrainConsistency
    cases o.metrics.flatMap (grainViolations o) <;> simp
  rw [passes]
  simp only [List.flatMap_eq_nil_iff, grainViolations_eq_nil]

/-- Between objects that exist, all join keys are checked. -/
theorem joinKeyMismatches_eq_nil (source : r.source ∈ o.objectNames) (target : r.target ∈ o.objectNames) :
    joinKeyMismatches o r = [] ↔ o.Joins r := by
  obtain ⟨x, left⟩ := Option.isSome_iff_exists.mp (object?_isSome.mpr source)
  obtain ⟨y, right⟩ := Option.isSome_iff_exists.mp (object?_isSome.mpr target)
  unfold joinKeyMismatches Ontology.Joins Ontology.Exposes
  simp [left, right, List.flatMap_eq_nil_iff, List.filterMap_eq_nil_iff]

end Check

/-! ### What passes of the validator report -/

namespace Document
open Json (Pointer)
open Json.Pointer

/-- A finding about a member of the grain of a metric. -/
def Finding.AboutGrainEntry (f : Finding) : Prop :=
  ∃ metric entry : Nat, f.path = Pointer.render ["metrics", toString metric, "grain", toString entry]

/-- A finding about the grain of a metric as a whole. -/
def Finding.AboutGrain (f : Finding) : Prop :=
  ∃ metric : Nat, f.path = Pointer.render ["metrics", toString metric, "grain"]

/-- A finding about one side of a join key of a relationship. -/
def Finding.AboutJoinKey (f : Finding) : Prop :=
  ∃ (relationship pair : Nat) (side : String), side ∈ ["0", "1"] ∧
    f.path = Pointer.render ["relationships", toString relationship, "joinKeys", toString pair, side]

/-- A finding about a place or a part of what stands there. -/
def Finding.Within (place : Pointer) (f : Finding) : Prop := ∃ rest, f.path = Pointer.render (place ++ rest)

/-- Findings that are all of a kind leave out the kind only if there are none. -/
theorem silent_about_iff {xs : List Finding} {Kind : Finding → Prop} (all : ∀ f ∈ xs, Kind f) :
    (∀ f ∈ xs, ¬ Kind f) ↔ xs = [] := by
  constructor
  · intro silent
    exact List.eq_nil_iff_forall_not_mem.mpr fun f member => silent f member (all f member)
  · rintro rfl f member
    cases member

section Places
variable {root v : Json} {place : Pointer} {key : String} {scope : Scope} {f : Finding}
  {check : Pointer → Json → List Finding} {items : List Json}

theorem within_append (rest : Pointer) (within : f.Within (place ++ rest)) : f.Within place := by
  obtain ⟨more, path⟩ := within
  exact ⟨rest ++ more, by rw [path, List.append_assoc]⟩

/-- What is within one member of a document is about nothing in another one. -/
theorem within_apart {other : String} {rest : Pointer} (within : f.Within [key])
    (different : key ≠ other) : f.path ≠ Pointer.render (other :: rest) := by
  obtain ⟨more, path⟩ := within
  intro same
  have segments : [key] ++ more = other :: rest := render_injective (path.symm.trans same)
  exact different (List.cons.inj segments).1

theorem checkItems_within (each : ∀ place v, ∀ f ∈ check place v, f.Within place) :
    ∀ f ∈ checkItems place check items, f.Within place := by
  intro f member
  obtain ⟨i, v, _, reported⟩ := mem_checkItems.mp member
  exact within_append _ (each _ v f reported)

theorem findingOf_within {message : String} {here : Pointer} (rest : Pointer) (same : here = place ++ rest) :
    ∀ f ∈ [findingOf message here v], f.Within place :=
  List.forall_mem_singleton.mpr ⟨rest, congrArg Pointer.render same⟩

theorem nothing_within : ∀ f ∈ ([] : List Finding), f.Within place := List.forall_mem_nil _

theorem endReference_within {role : String} :
    ∀ f ∈ endReference scope place v key role, f.Within place := by
  unfold endReference
  cases v.text? key with
  | none => exact nothing_within
  | some object => exact forall_mem_ite nothing_within (findingOf_within [key] rfl)

theorem relationshipReferences_within (place : Pointer) (v : Json) :
    ∀ f ∈ relationshipReferences scope place v, f.Within place :=
  List.forall_mem_append.mpr ⟨endReference_within, endReference_within⟩

theorem sourceReference_within (place : Pointer) (v : Json) :
    ∀ f ∈ sourceReference scope place v, f.Within place := by
  unfold sourceReference
  cases v.text? "sourceProperty" with
  | none => exact nothing_within
  | some source =>
    dsimp only
    cases splitReference? source with
    | none => exact nothing_within
    | some parts =>
      exact forall_mem_ite (findingOf_within ["sourceProperty"] rfl)
        (forall_mem_ite (findingOf_within ["sourceProperty"] rfl) nothing_within)

theorem cardinalityWord_within (place : Pointer) (v : Json) :
    ∀ f ∈ cardinalityWord place v, f.Within place := by
  unfold cardinalityWord
  cases v.text? "cardinality" with
  | none => exact nothing_within
  | some word => exact forall_mem_ite nothing_within (findingOf_within ["cardinality"] rfl)

theorem propertyNames_within {object name : String} {index : Nat} {first : Option Nat} :
    ∀ f ∈ propertyNames object place index v name first, f.Within place := by
  refine List.forall_mem_append.mpr ⟨?_, ?_⟩
  · cases first with
    | none => exact nothing_within
    | some first => exact findingOf_within ["properties", toString index, "name"] (by simp)
  · cases v.text? "type" with
    | none => exact nothing_within
    | some word =>
      exact forall_mem_ite nothing_within
        (findingOf_within ["properties", toString index, "type"] (by simp))

theorem objectNames_within (place : Pointer) (v : Json) :
    ∀ f ∈ objectNames place v, f.Within place := by
  refine List.forall_mem_append.mpr ⟨?_, ?_⟩
  · intro f member
    obtain ⟨_, _, _, _, _, reported⟩ := mem_reportNamed.mp member
    exact propertyNames_within f reported
  · intro f member
    apply within_append ["identifiers"]
    refine checkItems_within ?_ f member
    intro place identifier
    cases identifier.str? with
    | none => exact nothing_within
    | some name => exact forall_mem_ite nothing_within (findingOf_within [] (List.append_nil _).symm)

theorem metricWords_path : ∀ f ∈ metricWords place v,
    (v.get? "grain" = some (.arr []) ∧ f.path = Pointer.render (place ++ ["grain"])) ∨
      f.path = Pointer.render (place ++ ["type"]) := by
  intro f member
  rcases List.mem_append.mp member with grain | type
  · left
    split at grain
    · rename_i empty
      exact ⟨empty, by rw [List.mem_singleton.mp grain]; rfl⟩
    · cases grain
  · right
    split at type
    · cases type
    · split at type
      · cases type
      · rw [List.mem_singleton.mp type]; rfl

theorem duplicateNames_path {kind : String} : ∀ f ∈ duplicateNames key kind root,
    ∃ i : Nat, f.path = Pointer.render [key, toString i, "name"] := by
  intro f member
  obtain ⟨index, _, _, _, _, reported⟩ := mem_reportNamed.mp member
  split at reported
  · cases reported
  · exact ⟨index, by rw [List.mem_singleton.mp reported]; rfl⟩

theorem tableReferences_within : ∀ f ∈ tableReferences scope v, f.Within ["snowflake"] := by
  intro f member
  obtain ⟨⟨key, table⟩, _, reported⟩ := List.mem_flatMap.mp member
  dsimp only at reported
  split at reported
  · cases reported
  · exact ⟨["tableMappings", key], by rw [List.mem_singleton.mp reported]; rfl⟩

end Places

section Kinds
variable {root : Json} {scope : Scope}

/-- The references of a metric are the members of its grain. -/
theorem grainReferences_about :
    ∀ f ∈ checkItems ["metrics"] (grainReferences scope) (root.items "metrics"), f.AboutGrainEntry := by
  intro f member
  obtain ⟨metric, v, _, inMetric⟩ := mem_checkItems.mp member
  obtain ⟨entry, x, _, reported⟩ := mem_checkItems.mp inMetric
  cases text : x.str? with
  | none => simp [text] at reported
  | some object =>
    by_cases known : scope.hasObject object = true
    · simp [text, known] at reported
    · simp only [text, known, Bool.false_eq_true, ↓reduceIte, List.mem_singleton] at reported
      exact ⟨metric, entry, by rw [reported]; rfl⟩

theorem joinKeyReferences_about :
    ∀ f ∈ checkItems ["relationships"] (joinKeyReferences scope) (root.items "relationships"),
      f.AboutJoinKey := by
  intro f member
  obtain ⟨relationship, v, _, inRelationship⟩ := mem_checkItems.mp member
  have side : ∀ place object property, ∀ f ∈ joinKeyReference scope v place object property,
      f.path = Pointer.render place := by
    intro place object property f member
    unfold joinKeyReference at member
    split at member
    · cases member
    · rw [List.mem_singleton.mp member]; rfl
  unfold joinKeyReferences at inRelationship
  split at inRelationship
  · obtain ⟨pair, x, _, reported⟩ := mem_checkItems.mp inRelationship
    cases texts : x.textPair? with
    | none => simp [texts] at reported
    | some keys =>
      simp only [texts] at reported
      rcases List.mem_append.mp reported with left | right
      · exact ⟨relationship, pair, "0", by simp, side _ _ _ f left⟩
      · exact ⟨relationship, pair, "1", by simp, side _ _ _ f right⟩
  · cases inRelationship

/-- Of the references of a document, those of metrics are about members of a grain. -/
theorem references_grain_iff : (∀ f ∈ references scope root, ¬ f.AboutGrainEntry) ↔
    checkItems ["metrics"] (grainReferences scope) (root.items "metrics") = [] := by
  have relationships : ∀ f ∈ checkItems ["relationships"] (relationshipReferences scope)
      (root.items "relationships"), ¬ f.AboutGrainEntry := by
    rintro f member ⟨metric, entry, path⟩
    exact within_apart (checkItems_within relationshipReferences_within f member) (by decide) path
  have dimensions : ∀ f ∈ checkItems ["dimensions"] (sourceReference scope) (root.items "dimensions"),
      ¬ f.AboutGrainEntry := by
    rintro f member ⟨metric, entry, path⟩
    exact within_apart (checkItems_within sourceReference_within f member) (by decide) path
  rw [references, List.forall_mem_append, List.forall_mem_append, ← silent_about_iff grainReferences_about]
  exact ⟨fun silent => silent.1.2, fun silent => ⟨⟨relationships, silent⟩, dimensions⟩⟩

/-- Of the names and words of a document, a missing grain is about a grain. -/
theorem names_grain_iff : (∀ f ∈ names root, ¬ f.AboutGrain) ↔
    ∀ v ∈ root.items "metrics", v.get? "grain" ≠ some (.arr []) := by
  -- The names of metrics are below `metrics` too, but at another key than the grain.
  have duplicates : ∀ key kind, ∀ f ∈ duplicateNames key kind root, ¬ f.AboutGrain := by
    rintro key kind f member ⟨metric, path⟩
    obtain ⟨i, place⟩ := duplicateNames_path f member
    have segments := render_injective (place.symm.trans path)
    simp at segments
  have objects : ∀ f ∈ checkItems ["objects"] objectNames (root.items "objects"), ¬ f.AboutGrain := by
    rintro f member ⟨metric, path⟩
    exact within_apart (checkItems_within objectNames_within f member) (by decide) path
  have relationships : ∀ f ∈ checkItems ["relationships"] cardinalityWord (root.items "relationships"),
      ¬ f.AboutGrain := by
    rintro f member ⟨metric, path⟩
    exact within_apart (checkItems_within cardinalityWord_within f member) (by decide) path
  have metrics : (∀ f ∈ checkItems ["metrics"] metricWords (root.items "metrics"), ¬ f.AboutGrain) ↔
      ∀ v ∈ root.items "metrics", v.get? "grain" ≠ some (.arr []) := by
    constructor
    · intro silent v listed empty
      obtain ⟨i, found⟩ := List.mem_iff_getElem?.mp listed
      have inItem : finding s!"Metric '{nameOf v}' must declare at least one grain object"
          (["metrics"] ++ [toString i] ++ ["grain"]) ∈ metricWords (["metrics"] ++ [toString i]) v := by
        simp [metricWords, empty]
      exact silent _ (mem_checkItems.mpr ⟨i, v, found, inItem⟩) ⟨i, rfl⟩
    · rintro nonempty f member ⟨metric, path⟩
      obtain ⟨i, v, found, reported⟩ := mem_checkItems.mp member
      rcases metricWords_path f reported with ⟨empty, _⟩ | place
      · exact nonempty v (List.mem_of_getElem? found) empty
      · have segments := render_injective (place.symm.trans path)
        simp at segments
  simp only [names, List.forall_mem_append, metrics]
  constructor
  · intro silent
    exact silent.2
  · intro nonempty
    exact ⟨⟨⟨⟨⟨⟨duplicates _ _, duplicates _ _⟩, duplicates _ _⟩, duplicates _ _⟩, objects⟩,
      relationships⟩, nonempty⟩

theorem mappingReferences_joins_iff {mapping : Json} (mapped : root.get? "snowflake" = some mapping)
    (record : IsRecord mapping) : (∀ f ∈ mappingReferences scope root, ¬ f.AboutJoinKey) ↔
      checkItems ["relationships"] (joinKeyReferences scope) (root.items "relationships") = [] := by
  have tables : ∀ f ∈ tableReferences scope mapping, ¬ f.AboutJoinKey := by
    rintro f member ⟨relationship, pair, side, _, path⟩
    exact within_apart (tableReferences_within f member) (by decide) path
  have isRecord : mapping.isObj = true := isObj_iff.mpr record
  rw [← silent_about_iff joinKeyReferences_about]
  simp only [mappingReferences, mapped, Option.filter_some, isRecord, ↓reduceIte, List.forall_mem_append]
  exact ⟨fun silent => silent.1, fun silent => ⟨silent, tables⟩⟩

end Kinds
end Document

/-! ### Agreement -/

section Agreement
open Document
variable {root : Json}

theorem forall_made {α : Type} {made : List α} {items : List Json} {make : Json → α} {P : α → Prop}
    (perm : made.Perm (items.map make)) : (∀ a ∈ made, P a) ↔ ∀ x ∈ items, P (make x) := by
  simp only [perm.mem_iff, List.forall_mem_map]

theorem references_agree (shape : DocumentShape root)
    (distinct : (namesIn (root.items "objects")).Nodup) :
    references (Scope.ofDocument root) root = [] ↔
      (Check.noUnresolvedReferences (normalize root)).outcome = .pass := by
  rw [Check.noUnresolvedReferences_pass, references_eq_nil distinct,
    forall_made shape.complete.relationships, forall_made shape.complete.metrics,
    forall_made shape.complete.dimensions]
  refine and_congr (forall₂_congr fun v listed => ?_) (and_congr (forall₂_congr fun v _ => ?_)
    (forall₂_congr fun v listed => ?_))
  · have shaped := shape.relationships.items v listed
    exact and_congr (shape.end_iff shaped.source).symm (shape.end_iff shaped.target).symm
  · exact shape.grain_iff.symm
  · exact (shape.source_iff distinct (shape.dimensions.items v listed)).symm

theorem grains_agree (shape : DocumentShape root) :
    ((∀ f ∈ references (Scope.ofDocument root) root, ¬ f.AboutGrainEntry) ∧
        ∀ f ∈ names root, ¬ f.AboutGrain) ↔
      (Check.metricGrainConsistency (normalize root)).outcome = .pass := by
  rw [Check.metricGrainConsistency_pass, references_grain_iff, names_grain_iff,
    checkItems_eq_nil grainReferences_eq_nil, forall_made shape.complete.metrics]
  constructor
  · rintro ⟨declared, nonempty⟩ v listed
    exact ⟨(shape.metrics.items v listed).grain_nonempty.mpr (nonempty v listed),
      shape.grain_iff.mpr (declared v listed)⟩
  · intro all
    refine ⟨fun v listed => shape.grain_iff.mp (all v listed).2, fun v listed => ?_⟩
    exact (shape.metrics.items v listed).grain_nonempty.mp (all v listed).1

theorem joins_agree (shape : DocumentShape root) (distinct : (namesIn (root.items "objects")).Nodup)
    (resolved : references (Scope.ofDocument root) root = [])
    (mapped : (root.get? "snowflake").isSome = true) :
    (∀ f ∈ mappingReferences (Scope.ofDocument root) root, ¬ f.AboutJoinKey) ↔
      (normalize root).relationships.flatMap (Check.joinKeyMismatches (normalize root)) = [] := by
  obtain ⟨mapping, found⟩ := Option.isSome_iff_exists.mp mapped
  -- Both sides pass over the keys of a relationship one of whose ends is unknown, but not in the same way.
  have ends := ((references_eq_nil distinct).mp resolved).1
  rw [mappingReferences_joins_iff found (shape.mapping mapping found).record,
    checkItems_eq_nil_of_mem (P := JoinRule root) fun place v listed =>
      joinKeyReferences_eq_nil distinct (ends v listed).1 (ends v listed).2,
    List.flatMap_eq_nil_iff, forall_made shape.complete.relationships]
  refine forall₂_congr fun v listed => ?_
  have shaped := shape.relationships.items v listed
  rw [Check.joinKeyMismatches_eq_nil ((shape.end_iff shaped.source).mpr (ends v listed).1)
    ((shape.end_iff shaped.target).mpr (ends v listed).2), shape.joins_iff distinct shaped]

/-- For a document of the right shape whose objects have distinct names: no reference is reported just if the
gate for references passes; neither a member of a grain nor an empty grain is reported just if the gate for
grains passes; and with references that all resolve and a mapping, no join key is reported just if the gate
for join paths misses none. -/
theorem gates_agree (root : Json) (shaped : grammar root = [])
    (distinct : (namesIn (root.items "objects")).Nodup) :
    (references (Scope.ofDocument root) root = [] ↔
      (Check.noUnresolvedReferences (normalize root)).outcome = .pass) ∧
    (((∀ f ∈ references (Scope.ofDocument root) root, ¬ f.AboutGrainEntry) ∧
        ∀ f ∈ names root, ¬ f.AboutGrain) ↔
      (Check.metricGrainConsistency (normalize root)).outcome = .pass) ∧
    (references (Scope.ofDocument root) root = [] → (root.get? "snowflake").isSome = true →
      ((∀ f ∈ mappingReferences (Scope.ofDocument root) root, ¬ f.AboutJoinKey) ↔
        (normalize root).relationships.flatMap (Check.joinKeyMismatches (normalize root)) = [])) := by
  have shape := (grammar_eq_nil root).mp shaped
  refine ⟨references_agree shape distinct, grains_agree shape, ?_⟩
  intro resolved mapped
  exact joins_agree shape distinct resolved mapped

end Agreement

/-- Orders that are joined by a property which customers do not have, and a metric without a grain. -/
def Document.misjoinedOrders : Json :=
  .obj [
    ("metrics", .arr [.obj [("expression", .str "COUNT(*)"), ("grain", .arr []), ("name", .str "volume")]]),
    ("objects", .arr [
      .obj [("name", .str "Order"), ("properties", .arr [
        .obj [("name", .str "id"), ("type", .str "integer")]])],
      .obj [("name", .str "Customer"), ("properties", .arr [])]]),
    ("relationships", .arr [.obj [("from", .str "Order"), ("joinKeys", .arr [.arr [.str "id", .str "id"]]),
      ("name", .str "buyer"), ("to", .str "Customer")]]),
    ("snowflake", .obj [("database", .str "DB"), ("schema", .str "PUBLIC")]),
    ("version", .str "1.0.0")]

open Document in
theorem misjoined_orders_gated : grammar misjoinedOrders = [] ∧
    (namesIn (misjoinedOrders.items "objects")).Nodup ∧
    (Check.noUnresolvedReferences (normalize misjoinedOrders)).outcome = .pass ∧
    (Check.metricGrainConsistency (normalize misjoinedOrders)).outcome ≠ .pass ∧
    (normalize misjoinedOrders).relationships.flatMap
      (Check.joinKeyMismatches (normalize misjoinedOrders)) ≠ [] := by
  obtain ⟨referred, grained, joined⟩ := gates_agree misjoinedOrders (by decide) (by decide)
  have resolved : references (Scope.ofDocument misjoinedOrders) misjoinedOrders = [] :=
    List.isEmpty_iff.mp (by decide)
  have noGrain : "/metrics/0/grain" ∈ (names misjoinedOrders).map Finding.path := by decide
  have noKey : "/relationships/0/joinKeys/0/1" ∈
      (mappingReferences (Scope.ofDocument misjoinedOrders) misjoinedOrders).map Finding.path := by decide
  obtain ⟨f, named, grain⟩ := List.mem_map.mp noGrain
  obtain ⟨g, mapped, key⟩ := List.mem_map.mp noKey
  refine ⟨by decide, by decide, referred.mp resolved, ?_, ?_⟩
  · intro passes
    exact (grained.mpr passes).2 f named ⟨0, grain⟩
  · intro silent
    exact (joined resolved (by decide)).mpr silent g mapped ⟨0, 0, "1", by decide, key⟩

end SemanticLayer
