import SemanticLayer.Drift.View
import SemanticLayer.Proofs.ModelText
import SemanticLayer.Proofs.TextOrder
import SemanticLayer.Provider.Catalog

/-! A semantic view that is deployed as it was compiled has not drifted. Matching what the members of
one list are made into compares the last bearers of their names (`matchLast_map`), so a model does not
differ from itself; and the deployed text is read as the model that was compiled. Main statement:
`deployed_as_compiled`. -/
namespace SemanticLayer.Drift

theorem find?_reverse_isSome {name : α → String} {xs : List α} {n : String} :
    (xs.reverse.find? (name · = n)).isSome = true ↔ n ∈ xs.map name := by
  simp

/-- Matching says nothing just if every name has a last bearer in both lists, and these are alike, or in
neither. -/
theorem matchLast_silent {α : Type} {kind title : String} {name : α → String} {xs ys : List α}
    {both : String → α → α → List DriftEvent} : matchLast kind title name xs ys both = [] ↔
    ∀ n, (∀ x, xs.reverse.find? (name · = n) = some x →
        ∃ y, ys.reverse.find? (name · = n) = some y ∧ both n x y = []) ∧
      (∀ y, ys.reverse.find? (name · = n) = some y → ∃ x, xs.reverse.find? (name · = n) = some x) := by
  simp only [matchLast, List.flatMap_eq_nil_iff, mem_textSet]
  refine forall_congr' fun n => ?_
  cases expected : xs.reverse.find? (name · = n) with
  | none =>
    cases deployed : ys.reverse.find? (name · = n) with
    | none => simp
    | some y =>
      have listed : n ∈ ys.map name := find?_reverse_isSome.mp (by rw [deployed]; rfl)
      simp [listed]
  | some x =>
    have listed : n ∈ xs.map name := find?_reverse_isSome.mp (by rw [expected]; rfl)
    cases deployed : ys.reverse.find? (name · = n) with
    | none => simp [listed]
    | some y => simp [listed]

/-- Members of one list, each made into two things of its name, differ just where a last bearer of a name
is made into things that do. -/
theorem matchLast_map {α β : Type} {kind title : String} {key : α → String} {name : β → String}
    {f g : α → β} {both : String → β → β → List DriftEvent} (xs : List α)
    (left : ∀ x, name (f x) = key x) (right : ∀ x, name (g x) = key x) :
    matchLast kind title name (xs.map f) (xs.map g) both = [] ↔
      ∀ x, xs.reverse.find? (key · = key x) = some x → both (key x) (f x) (g x) = [] := by
  have found {h : α → β} (same : ∀ x, name (h x) = key x) (n : String) :
      (xs.map h).reverse.find? (name · = n) = (xs.reverse.find? (key · = n)).map h := by
    rw [← List.map_reverse, List.find?_map]
    simp only [Function.comp_def, same]
  simp only [matchLast_silent, found left, found right, Option.map_eq_some_iff]
  constructor
  · intro silent x last
    obtain ⟨_, ⟨y, again, rfl⟩, same⟩ := (silent (key x)).1 (f x) ⟨x, last, rfl⟩
    rw [last] at again
    cases again
    exact same
  · intro each n
    constructor
    · rintro _ ⟨x, last, rfl⟩
      obtain rfl : key x = n := by simpa using List.find?_some last
      exact ⟨g x, ⟨x, last, rfl⟩, each x last⟩
    · rintro _ ⟨x, last, rfl⟩
      exact ⟨f x, x, last, rfl⟩

theorem matchLast_self {α : Type} {kind title : String} {name : α → String}
    {both : String → α → α → List DriftEvent} (xs : List α) (same : ∀ n x, both n x x = []) :
    matchLast kind title name xs xs both = [] := by
  have mapped := @matchLast_map α α kind title name name id id both xs (fun _ => rfl) (fun _ => rfl)
  rw [List.map_id] at mapped
  exact mapped.mpr fun x _ => same (name x) x

theorem tableDrift_self (tables : List LogicalTable) : tableDrift tables tables = [] := by
  unfold tableDrift
  exact matchLast_self tables fun _ _ => if_pos rfl

theorem joinDrift_self (joins : List Join) : joinDrift joins joins = [] := by
  unfold joinDrift
  refine matchLast_self joins fun _ join => if_pos ?_
  simp [sameColumns]

theorem factDrift_self (facts : List Fact) : factDrift facts facts = [] := by
  unfold factDrift
  exact matchLast_self facts fun _ _ => if_pos rfl

theorem compareModels_self (m : Model) : compareModels m m = [] := by
  simp only [compareModels, tableDrift_self, joinDrift_self, factDrift_self, List.append_nil]

/-- A deployed text shows no differences just where the model that it holds shows none. -/
theorem definitionDrift_eq_nil_iff {view : View} {expected : Compiled} {deployed : String} {m : Model}
    (reads : Model.parse deployed = .ok m) (threshold : Nat) :
    definitionDrift view threshold expected deployed = [] ↔ compareModels expected.model m = [] := by
  simp only [definitionDrift, reads, List.append_eq_nil_iff, and_iff_left_iff_imp]
  intro silent
  rw [silent]
  exact if_pos (Nat.zero_le _)

/-- A deployed text shows no differences if it holds the compiled model, however it is written. -/
theorem definitionDrift_eq_nil {view : View} {expected : Compiled} {deployed : String}
    (reads : Model.parse deployed = .ok expected.model) (threshold : Nat) :
    definitionDrift view threshold expected deployed = [] :=
  (definitionDrift_eq_nil_iff reads threshold).mpr (compareModels_self expected.model)

/-- Whatever the version, an ontology compiles for a view that has a name; and where the text that it
compiles to is deployed, no differences are found. -/
theorem deployed_as_compiled (o : Ontology) (view : View) (version : Option Int)
    (named : Text.allBlank view.name = false) :
    ∃ compiled, Compile.forView o view version = .ok compiled ∧
      ∀ (provider : Provider) (threshold : Nat) (deployed : LiveView),
        provider.view? view.database view.schema view.name = .ok (some deployed) →
        deployed.yaml = compiled.yaml → viewDrift o provider view threshold = .ok [] := by
  have compiles (v : Option Int) : Compile.forView o view v = .ok ⟨view, .build o view,
      (Model.build o view).render, Sql.verifyScript view (Model.build o view).render v,
      Sql.deployScript view (Model.build o view).render v⟩ :=
    if_neg (by simp [named])
  refine ⟨_, compiles version, fun provider threshold deployed answers same => ?_⟩
  have reads : Model.parse deployed.yaml = .ok (Model.build o view) := by
    simp only [same, Model.parse, readShaped_model, ofJson?_model]
  simp only [viewDrift, compiles none, answers]
  rw [definitionDrift_eq_nil reads]

/-- An ontology with two objects of one name, a relationship of no columns and metrics that are hard
to write. -/
def rivalOrders : Ontology where
  version := "1"
  name := "sales"
  description := "- not: a list # nor a comment\n"
  objects := [⟨"Order", "", ["id"], [⟨"id", .integer, "true", false, true⟩], none, none, none⟩,
    ⟨"Order", "null", [], [⟨"total", .decimal, "'", true, false⟩], some "orders", none, some ""⟩]
  relationships := [⟨"self", "Order", "Order", [], .oneToMany, ""⟩]
  metrics := [⟨"revenue", " SUM(total)\n  -- gross\n", ["Order"], .sum, some "", ""⟩,
    ⟨"revenue", "", [], .count, none, "\t"⟩]
  dimensions := []
  mapping := none

def ordersView : View := ⟨"WAREHOUSE", "SALES", "orders"⟩

theorem rival_orders_deployed :
    Text.allBlank ordersView.name = false ∧
    ∃ compiled, Compile.forView rivalOrders ordersView (some 3) = .ok compiled ∧
      viewDrift rivalOrders (Catalog.empty.addView "warehouse" "sales" "Orders" compiled.yaml).provider
        ordersView 0 = .ok [] := by
  have named : Text.allBlank ordersView.name = false := by decide
  obtain ⟨compiled, compiles, still⟩ := deployed_as_compiled rivalOrders ordersView (some 3) named
  refine ⟨named, compiled, compiles, still _ 0 ⟨"Orders", compiled.yaml⟩ ?_ rfl⟩
  have sameKey : Catalog.key ordersView.database ordersView.schema ordersView.name =
      Catalog.key "warehouse" "sales" "Orders" := by decide
  simp [Catalog.provider, Catalog.addView, Catalog.empty, Catalog.answer, Keyed.insert, Keyed.get?, sameKey]

end SemanticLayer.Drift
