import SemanticLayer.Ontology.Normalize
import SemanticLayer.Proofs.CompactText

/-! The canonical text of a record of an ontology belongs to that record only: no two records share
one. This is what makes the canonical text fit to decide the order of records of the same name. -/
namespace SemanticLayer
open Json (Numberless)

/-! ### Words -/

theorem PropertyType.toJson_injective {s t : PropertyType} (same : s.toJson = t.toJson) : s = t := by
  cases s <;> cases t <;> simp_all [toJson, name]

theorem Cardinality.toJson_injective {s t : Cardinality} (same : s.toJson = t.toJson) : s = t := by
  cases s <;> cases t <;> simp_all [toJson, name]

theorem MetricType.toJson_injective {s t : MetricType} (same : s.toJson = t.toJson) : s = t := by
  cases s <;> cases t <;> simp_all [toJson, name]

theorem DimensionType.toJson_injective {s t : DimensionType} (same : s.toJson = t.toJson) :
    s = t := by
  cases s <;> cases t <;> simp_all [toJson, name]

/-! ### Parts of records -/

namespace Json

theorem ofText?_injective {s t : Option String} (same : ofText? s = ofText? t) : s = t := by
  cases s <;> cases t <;> simp_all [ofText?]

theorem ofTexts_injective {xs ys : List String} (same : ofTexts xs = ofTexts ys) : xs = ys :=
  List.map_injective_iff.mpr (fun _ _ => Json.str.inj) (Json.arr.inj same)

@[simp] theorem numberless_text? (s : Option String) : Numberless (ofText? s) := by
  cases s <;> simp [ofText?]

@[simp] theorem numberless_texts (xs : List String) : Numberless (ofTexts xs) := by
  simp [ofTexts]

end Json

/-! ### Records -/

namespace Property

theorem toJson_injective {p q : Property} (same : p.toJson = q.toJson) : p = q := by
  cases p; cases q
  simp only [toJson, Json.obj.injEq, List.cons.injEq, Prod.mk.injEq, Json.str.injEq,
    Json.bool.injEq, true_and, and_true] at same
  obtain ⟨name, type, description, nullable, required⟩ := same
  rw [name, PropertyType.toJson_injective type, description, nullable, required]

theorem numberless (p : Property) : Numberless p.toJson := by
  simp [toJson, PropertyType.toJson]

theorem canonical_injective {p q : Property} (same : p.canonical = q.canonical) : p = q :=
  toJson_injective (Json.compact_injective p.numberless q.numberless same)

end Property

namespace Object

theorem toJson_injective {o p : Object} (same : o.toJson = p.toJson) : o = p := by
  cases o; cases p
  simp only [toJson, Json.obj.injEq, List.cons.injEq, Prod.mk.injEq, Json.str.injEq,
    Json.arr.injEq, true_and, and_true] at same
  obtain ⟨name, description, identifiers, properties, table, schema, database⟩ := same
  have sameProperties := List.map_injective_iff.mpr (fun _ _ => Property.toJson_injective) properties
  rw [name, description, Json.ofTexts_injective identifiers, sameProperties,
    Json.ofText?_injective table, Json.ofText?_injective schema, Json.ofText?_injective database]

theorem numberless (o : Object) : Numberless o.toJson := by
  simp [toJson, Property.numberless]

theorem canonical_injective {o p : Object} (same : o.canonical = p.canonical) : o = p :=
  toJson_injective (Json.compact_injective o.numberless p.numberless same)

end Object

namespace Relationship

private theorem key_pair_injective {a b : String × String}
    (same : Json.ofTexts [a.1, a.2] = Json.ofTexts [b.1, b.2]) : a = b := by
  have texts := Json.ofTexts_injective same
  simp only [List.cons.injEq, and_true] at texts
  exact Prod.ext texts.1 texts.2

theorem toJson_injective {r s : Relationship} (same : r.toJson = s.toJson) : r = s := by
  cases r; cases s
  simp only [toJson, Json.obj.injEq, List.cons.injEq, Prod.mk.injEq, Json.str.injEq,
    Json.arr.injEq, true_and, and_true] at same
  obtain ⟨name, source, target, joinKeys, cardinality, description⟩ := same
  have sameKeys := List.map_injective_iff.mpr (fun _ _ => key_pair_injective) joinKeys
  rw [name, source, target, sameKeys, Cardinality.toJson_injective cardinality, description]

theorem numberless (r : Relationship) : Numberless r.toJson := by
  simp only [toJson, Cardinality.toJson, Json.numberless_obj, Json.numberless_arr,
    List.forall_mem_cons, List.forall_mem_map, Numberless.str, Json.numberless_texts]
  simp

theorem canonical_injective {r s : Relationship} (same : r.canonical = s.canonical) : r = s :=
  toJson_injective (Json.compact_injective r.numberless s.numberless same)

end Relationship

namespace Metric

theorem toJson_injective {m n : Metric} (same : m.toJson = n.toJson) : m = n := by
  cases m; cases n
  simp only [toJson, Json.obj.injEq, List.cons.injEq, Prod.mk.injEq, Json.str.injEq,
    true_and, and_true] at same
  obtain ⟨name, expression, grain, type, format, description⟩ := same
  rw [name, expression, Json.ofTexts_injective grain, MetricType.toJson_injective type,
    Json.ofText?_injective format, description]

theorem numberless (m : Metric) : Numberless m.toJson := by
  simp [toJson, MetricType.toJson]

theorem canonical_injective {m n : Metric} (same : m.canonical = n.canonical) : m = n :=
  toJson_injective (Json.compact_injective m.numberless n.numberless same)

end Metric

namespace Dimension

theorem toJson_injective {d e : Dimension} (same : d.toJson = e.toJson) : d = e := by
  cases d; cases e
  simp only [toJson, Json.obj.injEq, List.cons.injEq, Prod.mk.injEq, Json.str.injEq,
    true_and, and_true] at same
  obtain ⟨name, sourceProperty, type, description⟩ := same
  rw [name, sourceProperty, DimensionType.toJson_injective type, description]

theorem numberless (d : Dimension) : Numberless d.toJson := by
  simp [toJson, DimensionType.toJson]

theorem canonical_injective {d e : Dimension} (same : d.canonical = e.canonical) : d = e :=
  toJson_injective (Json.compact_injective d.numberless e.numberless same)

end Dimension
end SemanticLayer
