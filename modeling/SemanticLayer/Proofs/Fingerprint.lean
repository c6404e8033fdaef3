import SemanticLayer.Proofs.BundleChecksum
import SemanticLayer.Proofs.CanonicalText

/-! Two ontologies have the same fingerprint only if they are the same, unless the hash has the same value for
two texts: nothing of an ontology is lost in its text, and no part of one is taken for a part of another. This
holds of every ontology, not only of those that describe a document. Main statement: `texts_distinguish`. -/
namespace SemanticLayer
open Json (Numberless)

namespace Mapping

private theorem entry_injective {a b : String × String}
    (same : (a.1, Json.str a.2) = (b.1, Json.str b.2)) : a = b := by
  obtain ⟨name, table⟩ := Prod.mk.inj same
  exact Prod.ext name (Json.str.inj table)

theorem toJson_injective {m n : Mapping} (same : m.toJson = n.toJson) : m = n := by
  cases m; cases n
  simp only [toJson, Json.obj.injEq, List.cons.injEq, Prod.mk.injEq, Json.str.injEq,
    true_and, and_true] at same
  obtain ⟨database, schema, warehouse, tables⟩ := same
  have sameTables := List.map_injective_iff.mpr (fun _ _ => entry_injective) tables
  rw [database, schema, Json.ofText?_injective warehouse, sameTables]

theorem numberless (m : Mapping) : Numberless m.toJson := by
  simp only [toJson, Json.numberless_obj, List.forall_mem_cons, List.forall_mem_map, Numberless.str,
    Json.numberless_text?]
  simp

/-- A mapping is an object, and so never taken for the null of an ontology without one. -/
theorem orNull_injective {m n : Option Mapping}
    (same : (m.map toJson).getD .null = (n.map toJson).getD .null) : m = n := by
  cases m with
  | none => cases n with
    | none => rfl
    | some n => simp [toJson] at same
  | some m => cases n with
    | none => simp [toJson] at same
    | some n => exact congrArg some (toJson_injective same)

theorem numberless_orNull (m : Option Mapping) : Numberless ((m.map toJson).getD .null) := by
  cases m with
  | none => exact .null
  | some m => exact m.numberless

end Mapping

namespace Ontology

theorem toJson_injective {o p : Ontology} (same : o.toJson = p.toJson) : o = p := by
  cases o; cases p
  simp only [toJson, Json.obj.injEq, List.cons.injEq, Prod.mk.injEq, Json.str.injEq,
    Json.arr.injEq, true_and, and_true] at same
  obtain ⟨version, name, description, objects, relationships, metrics, dimensions, mapping⟩ := same
  have sameObjects := List.map_injective_iff.mpr (fun _ _ => Object.toJson_injective) objects
  have sameRelationships :=
    List.map_injective_iff.mpr (fun _ _ => Relationship.toJson_injective) relationships
  have sameMetrics := List.map_injective_iff.mpr (fun _ _ => Metric.toJson_injective) metrics
  have sameDimensions := List.map_injective_iff.mpr (fun _ _ => Dimension.toJson_injective) dimensions
  rw [version, name, description, sameObjects, sameRelationships, sameMetrics, sameDimensions,
    Mapping.orNull_injective mapping]

theorem numberless (o : Ontology) : Numberless o.toJson := by
  simp [toJson, Object.numberless, Relationship.numberless, Metric.numberless, Dimension.numberless,
    Mapping.numberless_orNull]

theorem canonical_injective {o p : Ontology} (same : o.canonical = p.canonical) : o = p :=
  toJson_injective (Json.compact_injective o.numberless p.numberless same)

/-- The fingerprint is that of no other ontology, unless two texts have the same hash. -/
theorem fingerprint_eq_iff (a b : Ontology) :
    a.fingerprint = b.fingerprint ↔ a = b ∨ Digest.Collide a.canonical b.canonical := by
  constructor
  · intro same
    by_cases text : a.canonical = b.canonical
    · exact .inl (canonical_injective text)
    · exact .inr ⟨text, same⟩
  · rintro (rfl | ⟨_, same⟩)
    · rfl
    · exact same

end Ontology

/-- The text of which a fingerprint is the hash is that of one ontology only, whatever its texts are and
however long its lists; and the texts that decide the order of the records of one name are each that of one
record only. -/
theorem texts_distinguish :
    (∀ a b : Ontology, a.canonical = b.canonical ↔ a = b) ∧
    (∀ a b : Ontology, a.fingerprint = b.fingerprint ↔
      a = b ∨ Digest.Collide a.canonical b.canonical) ∧
    (∀ a b : Object, a.canonical = b.canonical ↔ a = b) ∧
    (∀ a b : Relationship, a.canonical = b.canonical ↔ a = b) ∧
    (∀ a b : Metric, a.canonical = b.canonical ↔ a = b) ∧
    (∀ a b : Dimension, a.canonical = b.canonical ↔ a = b) ∧
    (∀ a b : Property, a.canonical = b.canonical ↔ a = b) := by
  refine ⟨?_, Ontology.fingerprint_eq_iff, ?_, ?_, ?_, ?_, ?_⟩
  · exact fun a b => ⟨Ontology.canonical_injective, congrArg _⟩
  · exact fun a b => ⟨Object.canonical_injective, congrArg _⟩
  · exact fun a b => ⟨Relationship.canonical_injective, congrArg _⟩
  · exact fun a b => ⟨Metric.canonical_injective, congrArg _⟩
  · exact fun a b => ⟨Dimension.canonical_injective, congrArg _⟩
  · exact fun a b => ⟨Property.canonical_injective, congrArg _⟩

end SemanticLayer
