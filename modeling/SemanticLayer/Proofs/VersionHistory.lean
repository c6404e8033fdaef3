import SemanticLayer.Proofs.ConservativeExtension

/-! Histories of versions. Extending a version is a preorder, and a diff without changes says that
nothing it looks at has changed, so both carry over from the single steps of a history to its two
ends. Main statement (`history_composes`). -/
namespace SemanticLayer

/-! ### Extending is a preorder -/

section Kept
variable {name : α → String} {R : α → α → Prop} {xs ys zs : List α}

theorem KeptByName.refl (same : ∀ x, R x x) (xs : List α) : KeptByName name R xs xs :=
  fun _ x found => ⟨x, found, same x⟩

theorem KeptByName.trans (compose : ∀ x y z, R x y → R y z → R x z)
    (first : KeptByName name R xs ys) (second : KeptByName name R ys zs) :
    KeptByName name R xs zs := by
  intro n x found
  obtain ⟨y, between, xy⟩ := first n x found
  obtain ⟨z, last, yz⟩ := second n y between
  exact ⟨z, last, compose x y z xy yz⟩

end Kept

theorem Object.Kept.refl (x : Object) : x.Kept x :=
  ⟨List.Subset.refl _, fun _ p found => ⟨p, found, rfl⟩⟩

theorem Object.Kept.trans {x y z : Object} (xy : x.Kept y) (yz : y.Kept z) : x.Kept z :=
  ⟨List.Subset.trans xy.identifiers yz.identifiers, xy.properties.trans (fun _ _ _ => Eq.trans) yz.properties⟩

theorem Relationship.Kept.refl (r : Relationship) : r.Kept r :=
  ⟨rfl, rfl, fun _ => .rfl, le_rfl⟩

theorem Relationship.Kept.trans {r s t : Relationship} (rs : r.Kept s) (st : s.Kept t) : r.Kept t :=
  ⟨rs.source.trans st.source, rs.target.trans st.target,
    fun pair => (rs.joinKeys pair).trans (st.joinKeys pair), st.cardinality.trans rs.cardinality⟩

theorem Metric.Kept.refl (m : Metric) : m.Kept m := ⟨rfl, fun _ => .rfl⟩

theorem Metric.Kept.trans {m n o : Metric} (mn : m.Kept n) (no : n.Kept o) : m.Kept o :=
  ⟨mn.expression.trans no.expression, fun object => (mn.grain object).trans (no.grain object)⟩

theorem Ontology.Extends.refl (a : Ontology) : a.Extends a :=
  ⟨.refl Object.Kept.refl _, .refl Relationship.Kept.refl _, .refl Metric.Kept.refl _,
    fun _ d found => ⟨d, found, rfl⟩⟩

theorem Ontology.Extends.trans {a b c : Ontology} (ab : a.Extends b) (bc : b.Extends c) :
    a.Extends c where
  objects := ab.objects.trans (fun _ _ _ => Object.Kept.trans) bc.objects
  relationships := ab.relationships.trans (fun _ _ _ => Relationship.Kept.trans) bc.relationships
  metrics := ab.metrics.trans (fun _ _ _ => Metric.Kept.trans) bc.metrics
  dimensions := ab.dimensions.trans (fun _ _ _ => Eq.trans) bc.dimensions

/-! ### What a diff sees -/

/-- What is seen of the thing that a name stands for, for every name. -/
def seenByName (name : α → String) (seen : α → β) (xs : List α) (n : String) : Option β :=
  (xs.find? (name · = n)).map seen

theorem seenByName_isSome {name : α → String} (seen : α → β) {xs : List α} {n : String} :
    (seenByName name seen xs n).isSome = true ↔ n ∈ xs.map name := by
  rw [seenByName, Option.isSome_map, find?_name_isSome]

/-- What a diff looks at in a property. -/
def Property.seen (p : Property) : PropertyType × String := (p.type, p.description)

/-- What a diff looks at in an object. -/
structure Object.Seen where
  description : String
  identifiers : Set String
  properties : String → Option (PropertyType × String)

def Object.seen (x : Object) : Object.Seen :=
  ⟨x.description, {id | id ∈ x.identifiers}, seenByName Property.name Property.seen x.properties⟩

/-- What a diff looks at in a relationship. -/
structure Relationship.Seen where
  source : String
  target : String
  joinKeys : Set (String × String)
  rank : Nat
  description : String

def Relationship.seen (r : Relationship) : Relationship.Seen :=
  ⟨r.source, r.target, {pair | pair ∈ r.joinKeys}, r.cardinality.rank, r.description⟩

/-- What a diff looks at in a metric. -/
structure Metric.Seen where
  expression : String
  grain : Set String
  description : String

def Metric.seen (m : Metric) : Metric.Seen :=
  ⟨m.expression, {object | object ∈ m.grain}, m.description⟩

/-- What a diff looks at in a dimension. -/
def Dimension.seen (d : Dimension) : String × String := (d.sourceProperty, d.description)

/-- What a diff looks at in a version. -/
structure Ontology.Seen where
  objects : String → Option Object.Seen
  relationships : String → Option Relationship.Seen
  metrics : String → Option Metric.Seen
  dimensions : String → Option (String × String)

def Ontology.seen (o : Ontology) : Ontology.Seen where
  objects := seenByName Object.name Object.seen o.objects
  relationships := seenByName Relationship.name Relationship.seen o.relationships
  metrics := seenByName Metric.name Metric.seen o.metrics
  dimensions := seenByName Dimension.name Dimension.seen o.dimensions

namespace Diff

theorem text_change_eq_nil {kind : ChangeKind} {breaking : Bool} {element was now : String} :
    textChange kind breaking element was now = [] ↔ was = now := by
  simp [textChange]

theorem members_eq_iff [BEq α] [LawfulBEq α] {xs ys : List α} :
    sameMembers xs ys = true ↔ {a | a ∈ xs} = {a | a ∈ ys} := by
  rw [sameMembers_iff, Set.ext_iff]
  exact .rfl

/-- There is nothing to report about two lists if they look the same under every name. -/
theorem byName_eq_nil {name : α → String} {seen : α → β} {old new : List α}
    {added removed : α → List Change} {both : α → α → List Change} (gain : ∀ y, added y ≠ [])
    (loss : ∀ x, removed x ≠ []) (shared : ∀ x y, both x y = [] ↔ seen x = seen y) :
    byName name old new added removed both = [] ↔
      seenByName name seen old = seenByName name seen new := by
  rw [List.eq_nil_iff_forall_not_mem, forall_byName]
  simp only [← List.eq_nil_iff_forall_not_mem]
  constructor
  · rintro ⟨onlyNew, onlyOld, together⟩
    funext n
    unfold seenByName
    cases before : old.find? (name · = n) with
    | none =>
      cases after : new.find? (name · = n) with
      | none => rfl
      | some y => exact absurd (onlyNew n y before after) (gain y)
    | some x =>
      cases after : new.find? (name · = n) with
      | none => exact absurd (onlyOld n x before after) (loss x)
      | some y => exact congrArg some ((shared x y).mp (together n x y before after))
  · intro same
    have alike (n : String) := congrFun same n
    unfold seenByName at alike
    refine ⟨?_, ?_, ?_⟩
    · intro n y before after
      simpa [before, after] using alike n
    · intro n x before after
      simpa [before, after] using alike n
    · intro n x y before after
      exact (shared x y).mpr (by simpa [before, after] using alike n)

/-- All identifiers are replaced only if there are some, so that nothing is reported only of the same
ones. -/
theorem identifiers_eq_nil (x y : Object) :
    identifiers x y = [] ↔ {id | id ∈ x.identifiers} = {id | id ∈ y.identifiers} := by
  have kept : identifiers x y = [] ↔
      ((textSet x.identifiers).filter fun id => !(textSet y.identifiers).contains id) = [] ∧
      ((textSet y.identifiers).filter fun id => !(textSet x.identifiers).contains id) = [] := by
    unfold identifiers
    dsimp only
    split
    · rename_i same
      rw [Bool.and_eq_true, List.isEmpty_iff, List.isEmpty_iff] at same
      exact iff_of_true rfl same
    · rename_i differ
      rw [Bool.and_eq_true, List.isEmpty_iff, List.isEmpty_iff] at differ
      refine iff_of_false (fun none => ?_) differ
      split at none
      · cases none
      · rw [List.append_eq_nil_iff, List.map_eq_nil_iff, List.map_eq_nil_iff] at none
        exact differ none
  rw [kept, none_removed, none_removed, Set.ext_iff]
  exact ⟨fun ⟨forth, back⟩ id => ⟨@forth id, @back id⟩,
    fun same => ⟨fun id => (same id).mp, fun id => (same id).mpr⟩⟩

theorem properties_eq_nil (x y : Object) : properties x y = [] ↔
    seenByName Property.name Property.seen x.properties =
      seenByName Property.name Property.seen y.properties := by
  unfold properties
  refine byName_eq_nil (fun _ => by simp) (fun _ => by simp) fun p q => ?_
  simp [text_change_eq_nil, Property.seen]

theorem objects_eq_nil (a b : Ontology) : objects a b = [] ↔ a.seen.objects = b.seen.objects := by
  unfold objects
  refine byName_eq_nil (fun _ => by simp) (fun _ => by simp) fun x y => ?_
  simp [text_change_eq_nil, identifiers_eq_nil, properties_eq_nil, Object.seen]

theorem cardinality_eq_nil (r s : Relationship) :
    cardinality r s = [] ↔ r.cardinality.rank = s.cardinality.rank := by
  unfold cardinality
  dsimp only
  split
  · simp; omega
  · split
    · simp; omega
    · simp; omega

theorem relationships_eq_nil (a b : Ontology) :
    relationships a b = [] ↔ a.seen.relationships = b.seen.relationships := by
  unfold relationships
  refine byName_eq_nil (fun _ => by simp) (fun _ => by simp) fun r s => ?_
  simp [text_change_eq_nil, cardinality_eq_nil, members_eq_iff, Relationship.seen, and_assoc]

theorem metrics_eq_nil (a b : Ontology) : metrics a b = [] ↔ a.seen.metrics = b.seen.metrics := by
  unfold metrics
  refine byName_eq_nil (fun _ => by simp) (fun _ => by simp) fun m n => ?_
  simp [text_change_eq_nil, members_eq_iff, Metric.seen]

theorem dimensions_eq_nil (a b : Ontology) :
    dimensions a b = [] ↔ a.seen.dimensions = b.seen.dimensions := by
  unfold dimensions
  refine byName_eq_nil (fun _ => by simp) (fun _ => by simp) fun d e => ?_
  simp [text_change_eq_nil, Dimension.seen]

theorem report_isEmpty {changes : List Change} :
    (ChangeReport.ofChanges changes).isEmpty = true ↔ changes = [] := by
  rw [ChangeReport.isEmpty, Bool.and_eq_true, List.isEmpty_iff, List.isEmpty_iff,
    ← List.append_eq_nil_iff]
  constructor
  · intro none
    have same := report_changes changes
    rw [ChangeReport.changes, none] at same
    exact same.nil_eq.symm
  · rintro rfl
    rfl

end Diff

/-- There is no change exactly if the versions look the same. -/
theorem diff_isEmpty (a b : Ontology) : (diff a b).isEmpty = true ↔ a.seen = b.seen := by
  rw [diff, Diff.report_isEmpty, List.append_eq_nil_iff, List.append_eq_nil_iff,
    List.append_eq_nil_iff, Diff.objects_eq_nil, Diff.relationships_eq_nil, Diff.metrics_eq_nil,
    Diff.dimensions_eq_nil, and_assoc, and_assoc, ← Ontology.Seen.mk.injEq]

/-! ### From the steps to the ends -/

/-- What is reflexive and composes holds between the ends of a history if it holds of every step. -/
theorem ends_related {R : α → α → Prop} (same : ∀ x, R x x)
    (compose : ∀ x y z, R x y → R y z → R x z) {version : Nat → α} {n : Nat}
    (steps : ∀ i < n, R (version i) (version (i + 1))) : R (version 0) (version n) := by
  induction n with
  | zero => exact same _
  | succ n ih =>
    have upToHere := ih fun i before => steps i (Nat.lt_succ_of_lt before)
    exact compose _ _ _ upToHere (steps n (Nat.lt_succ_self n))

/-- Along a history of any length: if no step breaks anything, the last version breaks nothing of the
first one; if no step changes anything, nothing has changed; and a break between the ends is a break
in one of the steps. -/
theorem history_composes (version : Nat → Ontology) (n : Nat) :
    ((∀ i < n, (diff (version i) (version (i + 1))).hasBreaking = false) →
      (diff (version 0) (version n)).hasBreaking = false) ∧
    ((∀ i < n, (diff (version i) (version (i + 1))).isEmpty = true) →
      (diff (version 0) (version n)).isEmpty = true) ∧
    ((diff (version 0) (version n)).hasBreaking = true →
      ∃ i < n, (diff (version i) (version (i + 1))).hasBreaking = true) := by
  have compatible : (∀ i < n, (diff (version i) (version (i + 1))).hasBreaking = false) →
      (diff (version 0) (version n)).hasBreaking = false := by
    simp only [diff, Diff.hasBreaking_iff, Diff.harmless_iff]
    exact ends_related Ontology.Extends.refl fun _ _ _ => Ontology.Extends.trans
  refine ⟨compatible, ?_, ?_⟩
  · simp only [diff_isEmpty]
    exact ends_related (fun _ => rfl) fun _ _ _ => Eq.trans
  · intro broken
    by_contra none
    have harmless := compatible fun i before =>
      Bool.eq_false_of_not_eq_true fun breaks => none ⟨i, before, breaks⟩
    exact Bool.noConfusion (harmless.symm.trans broken)

/-- A table of orders as it is released three times: first its identifiers are listed in another
order, then a property is added, and last a property gets another type. -/
def orderReleases (release : Nat) : Ontology :=
  let property (name : String) (type : PropertyType) : Property := ⟨name, type, "", true, false⟩
  let order (identifiers : List String) (properties : List Property) : Ontology :=
    ⟨"1", "sales", "", [⟨"Order", "", identifiers, properties, none, none, none⟩], [], [], [], none⟩
  match release with
  | 0 => order ["id", "line"] [property "id" .integer]
  | 1 => order ["line", "id"] [property "id" .integer]
  | 2 => order ["line", "id"] [property "id" .integer, property "total" .decimal]
  | _ => order ["line", "id"] [property "id" .string, property "total" .decimal]

theorem order_releases_compose :
    (∀ i < 1, (diff (orderReleases i) (orderReleases (i + 1))).isEmpty = true) ∧
    (diff (orderReleases 0) (orderReleases 1)).isEmpty = true ∧
    (∀ i < 2, (diff (orderReleases i) (orderReleases (i + 1))).hasBreaking = false) ∧
    (diff (orderReleases 0) (orderReleases 2)).hasBreaking = false ∧
    (diff (orderReleases 0) (orderReleases 3)).hasBreaking = true ∧
    ∃ i < 3, (diff (orderReleases i) (orderReleases (i + 1))).hasBreaking = true := by
  have quiet : ∀ i < 1, (diff (orderReleases i) (orderReleases (i + 1))).isEmpty = true := by decide
  have harmless : ∀ i < 2, (diff (orderReleases i) (orderReleases (i + 1))).hasBreaking = false := by
    decide
  have broken : (diff (orderReleases 0) (orderReleases 3)).hasBreaking = true := by decide
  exact ⟨quiet, (history_composes orderReleases 1).2.1 quiet, harmless,
    (history_composes orderReleases 2).1 harmless, broken,
    (history_composes orderReleases 3).2.2 broken⟩

end SemanticLayer
