import SemanticLayer.Proofs.FreshDeployment

/-! What a comparison of semantic views looks at. Where names are distinct, matching two lists says nothing
just if it pairs them off (`matchLast_paired`). So a comparison finds no difference just if the two models
have the same tables, relationships and facts by name, with the same base tables, pairs of columns and
expressions (`comparison_silent_iff`). What a relationship joins and how a fact is aggregated is not looked
at, and may be edited without notice (`rerouted_sales_unreported`). -/
namespace SemanticLayer.Drift

/-! ### Paired lists -/

/-- Two lists have things of the same names, and those of one name are related. -/
structure Paired (name : α → String) (R : α → α → Prop) (xs ys : List α) : Prop where
  forth : ∀ x ∈ xs, ∃ y ∈ ys, name y = name x ∧ R x y
  back : ∀ y ∈ ys, ∃ x ∈ xs, name x = name y ∧ R x y

section Matching
variable {α : Type} {kind title : String} {name : α → String} {xs ys : List α} {x y : α} {n : String}
  {both : String → α → α → List DriftEvent} {R : α → α → Prop}

/-- Where names are distinct, the last bearer of a name is the only one. -/
theorem last_bearer_iff (distinct : (xs.map name).Nodup) :
    xs.reverse.find? (name · = n) = some x ↔ x ∈ xs ∧ name x = n := by
  constructor
  · intro found
    obtain ⟨member, named⟩ := find?_name found
    exact ⟨List.mem_reverse.mp member, named⟩
  · rintro ⟨member, rfl⟩
    refine find?_name_of_mem ?_ (List.mem_reverse.mpr member)
    rw [List.map_reverse]
    exact List.nodup_reverse.mpr distinct

theorem matchLast_paired (distinct : (xs.map name).Nodup) (distinctToo : (ys.map name).Nodup)
    (same : ∀ n x y, both n x y = [] ↔ R x y) :
    matchLast kind title name xs ys both = [] ↔ Paired name R xs ys := by
  rw [matchLast_silent]
  simp only [last_bearer_iff distinct, last_bearer_iff distinctToo, same]
  constructor
  · intro silent
    refine ⟨fun x member => ?_, fun y member => ?_⟩
    · obtain ⟨y, ⟨listed, named⟩, related⟩ := (silent (name x)).1 x ⟨member, rfl⟩
      exact ⟨y, listed, named, related⟩
    · obtain ⟨x, listed, named⟩ := (silent (name y)).2 y ⟨member, rfl⟩
      obtain ⟨z, ⟨other, sameName⟩, related⟩ := (silent (name y)).1 x ⟨listed, named⟩
      obtain rfl : z = y := List.inj_on_of_nodup_map distinctToo other member sameName
      exact ⟨x, listed, named, related⟩
  · intro paired n
    constructor
    · rintro x ⟨member, rfl⟩
      obtain ⟨y, listed, named, related⟩ := paired.forth x member
      exact ⟨y, ⟨listed, named⟩, related⟩
    · rintro y ⟨member, rfl⟩
      obtain ⟨x, listed, named, _⟩ := paired.back y member
      exact ⟨x, listed, named⟩

end Matching

/-! ### Each kind of thing -/

/-- The things of a model have names of their own among those of their kind. -/
structure NamesApart (m : Model) : Prop where
  tables : (m.tables.map LogicalTable.name).Nodup
  relationships : (m.relationships.map Join.name).Nodup
  facts : (m.facts.map Fact.name).Nodup

theorem sameColumns_iff {xs ys : List ColumnPair} :
    sameColumns xs ys = true ↔ ∀ pair, pair ∈ xs ↔ pair ∈ ys := by
  simp only [sameColumns, Bool.and_eq_true, List.all_eq_true, List.any_eq_true, decide_eq_true_eq,
    exists_eq_right]
  constructor
  · rintro ⟨forth, back⟩ pair
    exact ⟨forth pair, back pair⟩
  · intro same
    exact ⟨fun pair => (same pair).mp, fun pair => (same pair).mpr⟩

section Kinds
variable {expected deployed : Model}

theorem tableDrift_silent (apart : NamesApart expected) (apartToo : NamesApart deployed) :
    tableDrift expected.tables deployed.tables = [] ↔
      Paired LogicalTable.name (fun t u => t.base = u.base) expected.tables deployed.tables := by
  unfold tableDrift
  refine matchLast_paired apart.tables apartToo.tables fun n t u => ?_
  simp

theorem joinDrift_silent (apart : NamesApart expected) (apartToo : NamesApart deployed) :
    joinDrift expected.relationships deployed.relationships = [] ↔
      Paired Join.name (fun j k => ∀ pair, pair ∈ j.columns ↔ pair ∈ k.columns)
        expected.relationships deployed.relationships := by
  unfold joinDrift
  refine matchLast_paired apart.relationships apartToo.relationships fun n j k => ?_
  rw [← sameColumns_iff]
  simp

theorem factDrift_silent (apart : NamesApart expected) (apartToo : NamesApart deployed) :
    factDrift expected.facts deployed.facts = [] ↔
      Paired Fact.name (fun f g => Text.trim f.expr = Text.trim g.expr) expected.facts deployed.facts := by
  unfold factDrift
  refine matchLast_paired apart.facts apartToo.facts fun n f g => ?_
  simp

end Kinds

/-- A comparison of models whose names are distinct finds no difference just if they have the same tables
in the same places, relationships of the same names by the same pairs of columns, and facts of the same
names and expressions, apart from blanks around these. -/
theorem comparison_silent_iff (expected deployed : Model) (apart : NamesApart expected)
    (apartToo : NamesApart deployed) :
    compareModels expected deployed = [] ↔
      Paired LogicalTable.name (fun t u => t.base = u.base) expected.tables deployed.tables ∧
      Paired Join.name (fun j k => ∀ pair, pair ∈ j.columns ↔ pair ∈ k.columns)
        expected.relationships deployed.relationships ∧
      Paired Fact.name (fun f g => Text.trim f.expr = Text.trim g.expr)
        expected.facts deployed.facts := by
  rw [compareModels, List.append_eq_nil_iff, List.append_eq_nil_iff, tableDrift_silent apart apartToo,
    joinDrift_silent apart apartToo, factDrift_silent apart apartToo, and_assoc]

/-- Sales by orders, which a relationship joins to another table. -/
def salesModel (left right aggregation : String) : Model where
  name := "sales"
  description := ""
  tables := [⟨"Customer", "", ⟨"DB", "PUBLIC", "customer"⟩, some ["id"], []⟩,
    ⟨"Order", "", ⟨"DB", "PUBLIC", "order"⟩, some ["id"], []⟩]
  relationships := [⟨"buyer", left, right, [⟨"id", "id"⟩], "left_outer", "many_to_one"⟩]
  facts := [⟨"revenue", "total", aggregation, ["Order"], none, ""⟩]

theorem salesModel_apart (left right aggregation : String) :
    NamesApart (salesModel left right aggregation) :=
  ⟨by simp [salesModel], by simp [salesModel], by simp [salesModel]⟩

/-- The same sales, written otherwise. -/
def respelledSales : Model := { salesModel "Order" "Customer" "sum" with
  relationships := [⟨"buyer", "Order", "Customer", [⟨"id", "id"⟩, ⟨"id", "id"⟩], "", ""⟩]
  facts := [⟨"revenue", " total\n", "sum", [], some "", "in euros"⟩] }

theorem respelled_sales_silent :
    NamesApart (salesModel "Order" "Customer" "sum") ∧ NamesApart respelledSales ∧
    compareModels (salesModel "Order" "Customer" "sum") respelledSales = [] := by
  have apart := salesModel_apart "Order" "Customer" "sum"
  have apartToo : NamesApart respelledSales :=
    ⟨apart.tables, by simp [respelledSales], by simp [respelledSales]⟩
  refine ⟨apart, apartToo, (comparison_silent_iff _ _ apart apartToo).mpr ⟨?_, ?_, ?_⟩⟩
  · exact ⟨fun t member => ⟨t, member, rfl, rfl⟩, fun t member => ⟨t, member, rfl, rfl⟩⟩
  · constructor <;> simp [salesModel, respelledSales]
  · have trimmed : Text.trim "total" = Text.trim " total\n" := by decide
    constructor <;> simp [salesModel, respelledSales, trimmed]

/-- A deployed relationship may join other tables and a deployed fact be aggregated otherwise without any
difference being found. -/
theorem rerouted_sales_unreported :
    NamesApart (salesModel "Order" "Customer" "sum") ∧
    NamesApart (salesModel "Customer" "Order" "max") ∧
    compareModels (salesModel "Order" "Customer" "sum") (salesModel "Customer" "Order" "max") = [] ∧
    (salesModel "Order" "Customer" "sum").relationships.map (fun j => (j.leftTable, j.rightTable)) ≠
      (salesModel "Customer" "Order" "max").relationships.map (fun j => (j.leftTable, j.rightTable)) ∧
    (salesModel "Order" "Customer" "sum").facts.map (·.aggregation) ≠
      (salesModel "Customer" "Order" "max").facts.map (·.aggregation) :=
  ⟨salesModel_apart .., salesModel_apart .., rfl, by decide, by decide⟩

end SemanticLayer.Drift
