import SemanticLayer.Proofs.NameMatching

/-! When a release is blocked. A diff has a breaking change unless the new version conservatively
extends the old one: whatever a name stood for, it still stands for something that can be relied on
in the same way. Main statement (`not_breaking_iff`). The relation between the versions mentions
neither changes nor the walk that finds them. -/
namespace SemanticLayer

/-! ### Conservative extensions -/

/-- Whatever a name stands for in one list, it stands for something related in the other one. -/
def KeptByName (name : α → String) (R : α → α → Prop) (old new : List α) : Prop :=
  ∀ n x, old.find? (name · = n) = some x → ∃ y, new.find? (name · = n) = some y ∧ R x y

/-- Identifiers and properties are kept; properties keep their types. -/
@[mk_iff]
structure Object.Kept (x y : Object) : Prop where
  identifiers : x.identifiers ⊆ y.identifiers
  properties : KeptByName Property.name (fun p q => p.type = q.type) x.properties y.properties

/-- The join is the same and not more restrictive. -/
@[mk_iff]
structure Relationship.Kept (r s : Relationship) : Prop where
  source : r.source = s.source
  target : r.target = s.target
  joinKeys : ∀ pair, pair ∈ r.joinKeys ↔ pair ∈ s.joinKeys
  cardinality : s.cardinality.rank ≤ r.cardinality.rank

@[mk_iff]
structure Metric.Kept (m n : Metric) : Prop where
  expression : m.expression = n.expression
  grain : ∀ object, object ∈ m.grain ↔ object ∈ n.grain

/-- The new version offers all that the old one offers. -/
@[mk_iff]
structure Ontology.Extends (old new : Ontology) : Prop where
  objects : KeptByName Object.name Object.Kept old.objects new.objects
  relationships : KeptByName Relationship.name Relationship.Kept old.relationships new.relationships
  metrics : KeptByName Metric.name Metric.Kept old.metrics new.metrics
  dimensions : KeptByName Dimension.name (fun d e => d.sourceProperty = e.sourceProperty)
    old.dimensions new.dimensions

namespace Diff

/-! ### Changes that break nothing -/

/-- None of the changes is breaking. -/
def Harmless (changes : List Change) : Prop := ∀ c ∈ changes, c.breaking = false

section Harmless
variable {changes others : List Change} {c : Change} {kind : ChangeKind} {element : String}
  {old new : String}

theorem harmless_nil : Harmless [] := by simp [Harmless]

theorem harmless_singleton : Harmless [c] ↔ c.breaking = false := by simp [Harmless]

theorem harmless_append : Harmless (changes ++ others) ↔ Harmless changes ∧ Harmless others :=
  List.forall_mem_append

theorem harmless_if {p : Prop} [Decidable p] (breaks : c.breaking = true) :
    Harmless (if p then [] else [c]) ↔ p := by
  split
  · simp [harmless_nil, *]
  · simp [harmless_singleton, *]

theorem harmless_text_change :
    Harmless (textChange kind true element old new) ↔ old = new :=
  harmless_if rfl

theorem harmless_description_change : Harmless (textChange kind false element old new) := by
  unfold textChange
  split
  · exact harmless_nil
  · exact harmless_singleton.mpr rfl

theorem hasBreaking_iff :
    (ChangeReport.ofChanges changes).hasBreaking = false ↔ Harmless changes := by
  simp [ChangeReport.ofChanges, ChangeReport.hasBreaking, Harmless, List.filter_eq_nil_iff]

/-- Where a new name is harmless and a lost one is not, the changes are harmless if the old names are
kept. -/
theorem harmless_byName {name : α → String} {old new : List α} {addition removal : α → Change}
    {both : α → α → List Change} {R : α → α → Prop} (gain : ∀ y, (addition y).breaking = false)
    (loss : ∀ x, (removal x).breaking = true) (shared : ∀ x y, Harmless (both x y) ↔ R x y) :
    Harmless (byName name old new (fun y => [addition y]) (fun x => [removal x]) both) ↔
      KeptByName name R old new := by
  rw [Harmless, forall_byName]
  constructor
  · rintro ⟨_, onlyOld, together⟩ n x before
    cases after : new.find? (name · = n) with
    | none =>
      have harmless := onlyOld n x before after (removal x) List.mem_cons_self
      rw [loss x] at harmless
      cases harmless
    | some y => exact ⟨y, rfl, (shared x y).mp (together n x y before after)⟩
  · intro kept
    refine ⟨fun _ y _ _ => harmless_singleton.mpr (gain y), ?_, ?_⟩
    · intro n x before after
      obtain ⟨y, found, _⟩ := kept n x before
      rw [after] at found
      cases found
    · intro n x y before after
      obtain ⟨z, found, related⟩ := kept n x before
      rw [after] at found
      cases found
      exact (shared x y).mpr related

end Harmless

/-! ### Each kind of thing -/

/-- No identifier is removed exactly if all are kept. -/
theorem none_removed {xs ys : List String} :
    ((textSet xs).filter fun id => !(textSet ys).contains id) = [] ↔ xs ⊆ ys := by
  simp [List.filter_eq_nil_iff, List.subset_def]

/-- Of the three ways in which identifiers can change, only additions are harmless: what is removed is
breaking by itself, and where all are replaced, one at least was removed. -/
theorem harmless_identifiers (x y : Object) :
    Harmless (identifiers x y) ↔ x.identifiers ⊆ y.identifiers := by
  unfold identifiers
  dsimp only
  split
  · rename_i same
    rw [Bool.and_eq_true, List.isEmpty_iff, List.isEmpty_iff] at same
    exact iff_of_true harmless_nil (none_removed.mp same.1)
  split
  · rename_i replaced
    simp only [Bool.and_eq_true, Bool.not_eq_true', List.isEmpty_eq_false_iff] at replaced
    obtain ⟨⟨nonempty, _⟩, disjoint⟩ := replaced
    obtain ⟨id, member⟩ := List.exists_mem_of_ne_nil _ nonempty
    apply iff_of_false
    · intro harmless
      exact Bool.noConfusion (harmless_singleton.mp harmless)
    · intro kept
      have shared : id ∈ textSet y.identifiers := mem_textSet.mpr (kept (mem_textSet.mp member))
      exact List.any_eq_false.mp disjoint id member (List.contains_iff_mem.mpr shared)
  · rw [harmless_append, ← none_removed]
    constructor
    · rintro ⟨removals, _⟩
      apply List.eq_nil_iff_forall_not_mem.mpr
      intro id member
      exact Bool.noConfusion (removals _ (List.mem_map_of_mem member))
    · intro none
      rw [none]
      refine ⟨harmless_nil, fun c member => ?_⟩
      obtain ⟨_, _, rfl⟩ := List.mem_map.mp member
      rfl

theorem harmless_properties (x y : Object) : Harmless (properties x y) ↔
    KeptByName Property.name (fun p q => p.type = q.type) x.properties y.properties := by
  unfold properties
  refine harmless_byName (fun _ => rfl) (fun _ => rfl) fun p q => ?_
  rw [harmless_append, harmless_if rfl]
  exact and_iff_left harmless_description_change

theorem harmless_objects (old new : Ontology) : Harmless (objects old new) ↔
    KeptByName Object.name Object.Kept old.objects new.objects := by
  unfold objects
  refine harmless_byName (fun _ => rfl) (fun _ => rfl) fun x y => ?_
  rw [harmless_append, harmless_append, harmless_identifiers, harmless_properties, and_assoc,
    and_iff_right harmless_description_change, Object.kept_iff]

/-- Only a stricter cardinality is breaking. -/
theorem harmless_cardinality (r s : Relationship) :
    Harmless (cardinality r s) ↔ s.cardinality.rank ≤ r.cardinality.rank := by
  unfold cardinality
  dsimp only
  split
  · rename_i stricter
    apply iff_of_false
    · intro harmless
      exact Bool.noConfusion (harmless_singleton.mp harmless)
    · omega
  · rename_i notStricter
    refine iff_of_true ?_ (by omega)
    split
    · exact harmless_singleton.mpr rfl
    · exact harmless_nil

theorem harmless_relationships (old new : Ontology) : Harmless (relationships old new) ↔
    KeptByName Relationship.name Relationship.Kept old.relationships new.relationships := by
  unfold relationships
  refine harmless_byName (fun _ => rfl) (fun _ => rfl) fun r s => ?_
  rw [harmless_append, harmless_append, harmless_append, harmless_if rfl, harmless_if rfl,
    harmless_cardinality, sameMembers_iff, and_iff_left harmless_description_change,
    Relationship.kept_iff, and_assoc, and_assoc]

theorem harmless_metrics (old new : Ontology) : Harmless (metrics old new) ↔
    KeptByName Metric.name Metric.Kept old.metrics new.metrics := by
  unfold metrics
  refine harmless_byName (fun _ => rfl) (fun _ => rfl) fun m n => ?_
  rw [harmless_append, harmless_append, harmless_text_change, harmless_if rfl, sameMembers_iff,
    and_iff_left harmless_description_change, Metric.kept_iff]

theorem harmless_dimensions (old new : Ontology) : Harmless (dimensions old new) ↔
    KeptByName Dimension.name (fun d e => d.sourceProperty = e.sourceProperty)
      old.dimensions new.dimensions := by
  unfold dimensions
  refine harmless_byName (fun _ => rfl) (fun _ => rfl) fun d e => ?_
  rw [harmless_append, harmless_if rfl]
  exact and_iff_left harmless_description_change

/-- All that is kept of each kind of thing, together. -/
theorem harmless_iff (old new : Ontology) :
    Harmless (objects old new ++ relationships old new ++ metrics old new ++ dimensions old new) ↔
      old.Extends new := by
  rw [harmless_append, harmless_append, harmless_append, harmless_objects, harmless_relationships,
    harmless_metrics, harmless_dimensions, Ontology.extends_iff, and_assoc, and_assoc]

end Diff

/-- A diff has no breaking change exactly if the new version conservatively extends the old one. -/
theorem not_breaking_iff (old new : Ontology) :
    (diff old new).hasBreaking = false ↔ old.Extends new := by
  rw [diff, Diff.hasBreaking_iff, Diff.harmless_iff]

end SemanticLayer
