import SemanticLayer.Proofs.VersionHistory

/-! What a diff tracks. Two versions are alike if they have the same names of every kind, and each name stands for
the same, as far as descriptions, identifiers, types, ends, join keys, ranks, expressions, grains and source properties
go. Lists of identifiers, join keys and grains may be in another order or repeat themselves, and what else a version
says may differ. Main statement (`silent_diff_iff`): a diff reports nothing just of versions that are alike. -/
namespace SemanticLayer

/-! ### Versions that are alike -/

/-- Two lists have the same names, and the first bearers of a name are alike. -/
structure AlikeByName (name : α → String) (R : α → α → Prop) (old new : List α) : Prop where
  names : ∀ n, n ∈ old.map name ↔ n ∈ new.map name
  alike : ∀ n x y, old.find? (name · = n) = some x → new.find? (name · = n) = some y → R x y

@[mk_iff]
structure Property.Alike (p q : Property) : Prop where
  type : p.type = q.type
  description : p.description = q.description

@[mk_iff]
structure Object.Alike (x y : Object) : Prop where
  description : x.description = y.description
  identifiers : ∀ id, id ∈ x.identifiers ↔ id ∈ y.identifiers
  properties : AlikeByName Property.name Property.Alike x.properties y.properties

@[mk_iff]
structure Relationship.Alike (r s : Relationship) : Prop where
  source : r.source = s.source
  target : r.target = s.target
  joinKeys : ∀ pair, pair ∈ r.joinKeys ↔ pair ∈ s.joinKeys
  cardinality : r.cardinality.rank = s.cardinality.rank
  description : r.description = s.description

@[mk_iff]
structure Metric.Alike (m n : Metric) : Prop where
  expression : m.expression = n.expression
  grain : ∀ object, object ∈ m.grain ↔ object ∈ n.grain
  description : m.description = n.description

@[mk_iff]
structure Dimension.Alike (d e : Dimension) : Prop where
  sourceProperty : d.sourceProperty = e.sourceProperty
  description : d.description = e.description

@[mk_iff]
structure Ontology.Alike (old new : Ontology) : Prop where
  objects : AlikeByName Object.name Object.Alike old.objects new.objects
  relationships : AlikeByName Relationship.name Relationship.Alike old.relationships new.relationships
  metrics : AlikeByName Metric.name Metric.Alike old.metrics new.metrics
  dimensions : AlikeByName Dimension.name Dimension.Alike old.dimensions new.dimensions

/-! ### Alike is what looks the same -/

/-- Where alike things are those that look the same, so are lists. -/
theorem alikeByName_iff {name : α → String} {R : α → α → Prop} {seen : α → β} {old new : List α}
    (shared : ∀ x y, R x y ↔ seen x = seen y) :
    AlikeByName name R old new ↔ seenByName name seen old = seenByName name seen new := by
  constructor
  · rintro ⟨names, alike⟩
    funext n
    have both := names n
    rw [← find?_name_isSome, ← find?_name_isSome] at both
    unfold seenByName
    cases before : old.find? (name · = n) with
    | none =>
      cases after : new.find? (name · = n) with
      | none => rfl
      | some y => simp [before, after] at both
    | some x =>
      cases after : new.find? (name · = n) with
      | none => simp [before, after] at both
      | some y => exact congrArg some ((shared x y).mp (alike n x y before after))
  · intro same
    refine ⟨fun n => ?_, fun n x y before after => ?_⟩
    · rw [← seenByName_isSome seen, same, seenByName_isSome]
    · have looks := congrFun same n
      rw [seenByName, seenByName, before, after] at looks
      exact (shared x y).mpr (Option.some.inj looks)

theorem Property.alike_iff_seen (p q : Property) : p.Alike q ↔ p.seen = q.seen := by
  rw [Property.alike_iff, Property.seen, Property.seen, Prod.mk.injEq]

theorem Object.alike_iff_seen (x y : Object) : x.Alike y ↔ x.seen = y.seen := by
  rw [Object.alike_iff, Object.seen, Object.seen, Object.Seen.mk.injEq, Set.ext_iff,
    alikeByName_iff Property.alike_iff_seen]
  exact .rfl

theorem Relationship.alike_iff_seen (r s : Relationship) : r.Alike s ↔ r.seen = s.seen := by
  rw [Relationship.alike_iff, Relationship.seen, Relationship.seen, Relationship.Seen.mk.injEq, Set.ext_iff]
  exact .rfl

theorem Metric.alike_iff_seen (m n : Metric) : m.Alike n ↔ m.seen = n.seen := by
  rw [Metric.alike_iff, Metric.seen, Metric.seen, Metric.Seen.mk.injEq, Set.ext_iff]
  exact .rfl

theorem Dimension.alike_iff_seen (d e : Dimension) : d.Alike e ↔ d.seen = e.seen := by
  rw [Dimension.alike_iff, Dimension.seen, Dimension.seen, Prod.mk.injEq]

theorem Ontology.alike_iff_seen (old new : Ontology) : old.Alike new ↔ old.seen = new.seen := by
  rw [Ontology.alike_iff, Ontology.seen, Ontology.seen, Ontology.Seen.mk.injEq,
    alikeByName_iff Object.alike_iff_seen, alikeByName_iff Relationship.alike_iff_seen,
    alikeByName_iff Metric.alike_iff_seen, alikeByName_iff Dimension.alike_iff_seen]

/-- A diff reports nothing just if the two versions are alike. -/
theorem silent_diff_iff (old new : Ontology) : (diff old new).isEmpty = true ↔ old.Alike new := by
  rw [diff_isEmpty, Ontology.alike_iff_seen]

end SemanticLayer
