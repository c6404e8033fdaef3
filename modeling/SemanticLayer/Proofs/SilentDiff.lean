import SemanticLayer.Model.Basic
import SemanticLayer.Proofs.VersionHistory
import SemanticLayer.Proofs.WellFormed

/-! What a diff without changes says about the models. It leaves facts and tables as they are as far as
their terms go (`silent_diff_keeps_terms`), because lists in order of their names that look the same are
alike place by place (`aligned`). It does not look at the types of metrics or at where objects are stored
(`moved_average_unreported`), so that it takes more for a fact to keep its aggregation, or a table its base
table. -/
namespace SemanticLayer

open Document

/-! ### Lists that look the same -/

section Aligned
variable {name : α → String} {seen : α → β} {xs ys : List α} {x : α}

theorem seenByName_of_mem (sorted : Increasing name xs) (member : x ∈ xs) :
    seenByName name seen xs (name x) = some (seen x) := by
  rw [seenByName, find?_name_of_mem sorted.distinct member, Option.map_some]

/-- Lists in order of their names that look the same under every name do so place by place. -/
theorem aligned (left : Increasing name xs) (right : Increasing name ys)
    (same : seenByName name seen xs = seenByName name seen ys) :
    List.Forall₂ (fun x y => x ∈ xs ∧ y ∈ ys ∧ name x = name y ∧ seen x = seen y) xs ys := by
  have listed (n : String) : n ∈ xs.map name ↔ n ∈ ys.map name := by
    rw [← seenByName_isSome seen, same, seenByName_isSome]
  have names : List.Forall₂ (fun x y => name x = name y) xs ys := by
    rw [← List.forall₂_map_right_iff, ← List.forall₂_map_left_iff, List.forall₂_eq_eq_eq]
    exact eq_of_increasing left right listed
  rw [List.forall₂_iff_zip] at names ⊢
  refine ⟨names.1, ?_⟩
  intro x y pair
  obtain ⟨member, memberToo⟩ := List.of_mem_zip pair
  have named := names.2 pair
  have alike := congrFun same (name x)
  rw [seenByName_of_mem left member, named, seenByName_of_mem right memberToo] at alike
  exact ⟨member, memberToo, named, Option.some.inj alike⟩

end Aligned

namespace Document.DocumentForm
variable {root : Json}

theorem grains_increasing (form : DocumentForm root) :
    ∀ m ∈ (normalize root).metrics, m.grain.Pairwise (· < ·) := by
  intro m member
  obtain ⟨v, _, rfl⟩ := made_of_mem form.complete.metrics member
  exact textSet_increasing _

theorem identifiers_increasing (form : DocumentForm root) :
    ∀ x ∈ (normalize root).objects, x.identifiers.Pairwise (· < ·) := by
  intro x member
  obtain ⟨v, _, rfl⟩ := made_of_mem form.complete.objects member
  exact textSet_increasing _

end Document.DocumentForm

/-! ### What stays of a model -/

/-- Where an object is stored, as far as the ontology says. -/
def Ontology.place (o : Ontology) (x : Object) : Option String × Option String × String :=
  (o.physicalDatabase? x, o.physicalSchema? x, o.physicalTable x)

theorem Ontology.base_of_place {a b : Ontology} {x y : Object} (same : a.place x = b.place y) (view : View) :
    (Model.tableOf a view x).base = (Model.tableOf b view y).base := by
  simp only [Ontology.place, Prod.mk.injEq] at same
  simp only [Model.tableOf, same]

theorem MetricType.aggregation_injective : Function.Injective MetricType.aggregation := by
  intro s t same
  cases s <;> cases t <;> simp [MetricType.aggregation] at same ⊢

/-- The facts that a metric of two versions becomes have the same terms. They are aggregated in the same
way just if the metric is still of its type. -/
structure Fact.Kept (a b : Ontology) (f g : Fact) : Prop where
  name : f.name = g.name
  expr : f.expr = g.expr
  grain : f.grain = g.grain
  aggregation : f.aggregation = g.aggregation ↔
    seenByName Metric.name Metric.type a.metrics f.name =
      seenByName Metric.name Metric.type b.metrics f.name

/-- The tables that an object of two versions becomes have the same key. They stand for the same table of
the warehouse if the object is still stored in its place. -/
structure LogicalTable.Kept (a b : Ontology) (t u : LogicalTable) : Prop where
  name : t.name = u.name
  primaryKey : t.primaryKey = u.primaryKey
  base : seenByName Object.name a.place a.objects t.name =
    seenByName Object.name b.place b.objects t.name → t.base = u.base

section Versions
variable {old new : Json}

theorem facts_kept (formOld : DocumentForm old) (formNew : DocumentForm new)
    (same : (normalize old).seen = (normalize new).seen) :
    List.Forall₂ (fun m n => Fact.Kept (normalize old) (normalize new) (Model.factOf m) (Model.factOf n))
      (normalize old).metrics (normalize new).metrics := by
  have sorted := formOld.wellFormed.metrics
  have sortedToo := formNew.wellFormed.metrics
  refine (aligned sorted sortedToo (congrArg Ontology.Seen.metrics same)).imp ?_
  rintro m n ⟨member, memberToo, named, alike⟩
  have type : seenByName Metric.name Metric.type (normalize old).metrics m.name = some m.type :=
    seenByName_of_mem sorted member
  have typeToo : seenByName Metric.name Metric.type (normalize new).metrics m.name = some n.type :=
    named ▸ seenByName_of_mem sortedToo memberToo
  have grain : m.grain = n.grain := eq_of_increasing (formOld.grains_increasing m member)
    (formNew.grains_increasing n memberToo) (Set.ext_iff.mp (congrArg Metric.Seen.grain alike))
  refine ⟨named, congrArg Metric.Seen.expression alike, grain, ?_⟩
  calc m.type.aggregation = n.type.aggregation
      _ ↔ m.type = n.type := MetricType.aggregation_injective.eq_iff
      _ ↔ _ := by rw [Model.factOf, type, typeToo, Option.some.injEq]

theorem tables_kept (formOld : DocumentForm old) (formNew : DocumentForm new)
    (same : (normalize old).seen = (normalize new).seen) (view : View) :
    List.Forall₂ (fun x y => LogicalTable.Kept (normalize old) (normalize new)
        (Model.tableOf (normalize old) view x) (Model.tableOf (normalize new) view y))
      (normalize old).objects (normalize new).objects := by
  have sorted := formOld.wellFormed.objects
  have sortedToo := formNew.wellFormed.objects
  refine (aligned sorted sortedToo (congrArg Ontology.Seen.objects same)).imp ?_
  rintro x y ⟨member, memberToo, named, alike⟩
  have identifiers : x.identifiers = y.identifiers :=
    eq_of_increasing (formOld.identifiers_increasing x member)
      (formNew.identifiers_increasing y memberToo)
      (Set.ext_iff.mp (congrArg Object.Seen.identifiers alike))
  refine ⟨named, by simp only [Model.tableOf, identifiers], fun stored => ?_⟩
  have place : seenByName Object.name (normalize old).place (normalize old).objects x.name =
      some ((normalize old).place x) := seenByName_of_mem sorted member
  have placeToo : seenByName Object.name (normalize new).place (normalize new).objects x.name =
      some ((normalize new).place y) := named ▸ seenByName_of_mem sortedToo memberToo
  rw [Model.tableOf, place, placeToo] at stored
  exact Ontology.base_of_place (Option.some.inj stored) view

/-- Between two valid documents without a change in between, the models for a view have the same facts
with the same expressions and grains, and the same tables with the same keys. A fact is aggregated in
the same way just if its metric keeps its type, and a table stands for the same table of the warehouse
if its object keeps its place. -/
theorem silent_diff_keeps_terms (validOld : (validate old).isValid = true)
    (validNew : (validate new).isValid = true)
    (silent : (diff (normalize old) (normalize new)).isEmpty = true) (view : View) :
    List.Forall₂ (Fact.Kept (normalize old) (normalize new))
      (Model.build (normalize old) view).facts (Model.build (normalize new) view).facts ∧
    List.Forall₂ (LogicalTable.Kept (normalize old) (normalize new))
      (Model.build (normalize old) view).tables (Model.build (normalize new) view).tables := by
  have formOld := DocumentForm.of_findings (findings_of_isValid validOld)
  have formNew := DocumentForm.of_findings (findings_of_isValid validNew)
  have same := (diff_isEmpty _ _).mp silent
  simp only [Model.build, List.forall₂_map_left_iff, List.forall₂_map_right_iff]
  exact ⟨facts_kept formOld formNew same, tables_kept formOld formNew same view⟩

end Versions

/-- Revenue by orders, as a version of a document describes it. -/
def Document.revenue (version type table : String) : Json :=
  .obj [
    ("metrics", .arr [.obj [("expression", .str "total"), ("grain", .arr [.str "Order"]),
      ("name", .str "revenue"), ("type", .str type)]]),
    ("objects", .arr [
      .obj [("identifiers", .arr [.str "id"]), ("name", .str "Order"), ("properties", .arr [
        .obj [("name", .str "id"), ("type", .str "integer")],
        .obj [("name", .str "total"), ("type", .str "decimal")]]), ("table", .str table)]]),
    ("version", .str version)]

theorem released_revenue_kept :
    let old := revenue "1.0.0" "sum" "ORDERS"
    let new := revenue "1.1.0" "sum" "ORDERS"
    let view : View := ⟨"DB", "PUBLIC", "sales"⟩
    (validate old).isValid = true ∧ (validate new).isValid = true ∧
    (diff (normalize old) (normalize new)).isEmpty = true ∧
    List.Forall₂ (Fact.Kept (normalize old) (normalize new))
      (Model.build (normalize old) view).facts (Model.build (normalize new) view).facts ∧
    List.Forall₂ (LogicalTable.Kept (normalize old) (normalize new))
      (Model.build (normalize old) view).tables (Model.build (normalize new) view).tables := by
  have valid : (validate (revenue "1.0.0" "sum" "ORDERS")).isValid = true := by decide
  have validToo : (validate (revenue "1.1.0" "sum" "ORDERS")).isValid = true := by decide
  have silent : (diff (normalize (revenue "1.0.0" "sum" "ORDERS"))
      (normalize (revenue "1.1.0" "sum" "ORDERS"))).isEmpty = true := by cbv
  exact ⟨valid, validToo, silent, silent_diff_keeps_terms valid validToo silent _⟩

/-- A metric may become an average over another table without a change being reported. -/
theorem moved_average_unreported :
    let old := revenue "1.0.0" "sum" "ORDERS"
    let new := revenue "1.0.0" "average" "ARCHIVE"
    let view : View := ⟨"DB", "PUBLIC", "sales"⟩
    (validate old).isValid = true ∧ (validate new).isValid = true ∧
    (diff (normalize old) (normalize new)).isEmpty = true ∧
    (Model.build (normalize old) view).facts.map (·.aggregation) = ["sum"] ∧
    (Model.build (normalize new) view).facts.map (·.aggregation) = ["avg"] ∧
    (Model.build (normalize old) view).tables.map (·.base.table) = ["ORDERS"] ∧
    (Model.build (normalize new) view).tables.map (·.base.table) = ["ARCHIVE"] :=
  ⟨by decide, by decide, by cbv, by cbv, by cbv, by cbv, by cbv⟩

end SemanticLayer
