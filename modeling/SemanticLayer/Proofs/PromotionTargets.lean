import SemanticLayer.Proofs.DeclaredPlace
import SemanticLayer.Proofs.PromotedDeployment

/-! Which targets are refused. Compilation resolves its target first and refuses one of which a part is blank;
promotion takes its targets as they are configured, and only their names are looked at. So promotion refuses
less (`promotion_refuses_less`), and a view can be promoted to no place (`nowhere_promoted`). -/
namespace SemanticLayer

/-- A view of which no part is blank. -/
@[mk_iff]
structure View.Complete (view : View) : Prop where
  database : Text.allBlank view.database = false
  schema : Text.allBlank view.schema = false
  name : Text.allBlank view.name = false

/-- The options that name a view in full. -/
def CompileOptions.naming (view : View) (version : Option Int) (time : Instant) : CompileOptions :=
  ⟨some view.name, some view.database, some view.schema, version, time⟩

/-- An ontology that is stored nowhere. -/
def Ontology.unplaced (o : Ontology) : Ontology := { o with mapping := none }

namespace Compile
variable {o : Ontology} {options : CompileOptions} {view : View} {version : Option Int} {time : Instant}

theorem defaultViewName_shown (o : Ontology) : Text.allBlank (defaultViewName o) = false := by
  unfold defaultViewName
  dsimp only
  split
  · decide
  · have shown : "_semantic_view".toList.all Text.isBlank = false := by decide
    rw [Text.allBlank, String.toList_append, List.all_append, shown, Bool.and_false]

theorem viewName?_shown {given : Option String} {name : String}
    (found : viewName? o given = some name) : Text.allBlank name = false := by
  cases given with
  | none =>
    rw [viewName?, Option.elim_none, Option.some.injEq] at found
    exact found ▸ defaultViewName_shown o
  | some s =>
    rw [viewName?, Option.elim_some] at found
    exact Text.nonBlank?_shown found

/-- A part of a target is taken from the options or from the mapping only if it is not blank. -/
theorem place_shown {given : Option String} {field : Mapping → String} {place : String}
    (found : (given.bind Text.nonBlank? <|> o.declared? field) = some place) :
    Text.allBlank place = false := by
  have either : given.bind Text.nonBlank? = some place ∨ o.declared? field = some place := by
    revert found
    cases given.bind Text.nonBlank? with
    | none => exact .inr
    | some s => exact .inl
  rcases either with inOptions | inMapping
  · obtain ⟨s, _, shown⟩ := Option.bind_eq_some_iff.mp inOptions
    exact Text.nonBlank?_shown shown
  · obtain ⟨m, _, shown⟩ := Option.bind_eq_some_iff.mp inMapping
    exact Text.nonBlank?_shown shown

theorem resolveView_complete (resolved : resolveView o options = .ok view) : view.Complete := by
  obtain ⟨database, schema, name⟩ := resolveView_ok.mp resolved
  exact ⟨place_shown database, place_shown schema, viewName?_shown name⟩

/-- An ontology compiles just if the view that it is compiled for can be resolved. -/
theorem bundle_isOk_iff : (∃ b, bundle o options = .ok b) ↔ ∃ view, resolveView o options = .ok view := by
  constructor
  · rintro ⟨b, compiled⟩
    obtain ⟨view, _, resolved, _⟩ := bundle_ok compiled
    exact ⟨view, resolved⟩
  · rintro ⟨view, resolved⟩
    exact bundle_isOk resolved (resolveView_complete resolved).name

/-- Without a mapping to fall back on, a view can be compiled for just if it is complete. -/
theorem unplaced_isOk_iff :
    (∃ b, bundle o.unplaced (.naming view version time) = .ok b) ↔ view.Complete := by
  have part (s : String) (field : Mapping → String) :
      ((some s).bind Text.nonBlank? <|> o.unplaced.declared? field) = Text.nonBlank? s := by
    have unmapped : o.unplaced.declared? field = none := rfl
    rw [unmapped, Option.bind_some]
    cases Text.nonBlank? s <;> rfl
  have resolves (found : View) : resolveView o.unplaced (.naming view version time) = .ok found ↔
      Text.nonBlank? view.database = some found.database ∧
      Text.nonBlank? view.schema = some found.schema ∧ Text.nonBlank? view.name = some found.name := by
    simp only [resolveView_ok, CompileOptions.naming, part, viewName?, Option.elim_some]
  rw [bundle_isOk_iff, View.complete_iff, ← Text.nonBlank?_isSome, ← Text.nonBlank?_isSome,
    ← Text.nonBlank?_isSome]
  constructor
  · rintro ⟨found, resolved⟩
    obtain ⟨database, schema, name⟩ := (resolves found).mp resolved
    exact ⟨by rw [database]; rfl, by rw [schema]; rfl, by rw [name]; rfl⟩
  · rintro ⟨database, schema, name⟩
    obtain ⟨d, isDatabase⟩ := Option.isSome_iff_exists.mp database
    obtain ⟨s, isSchema⟩ := Option.isSome_iff_exists.mp schema
    obtain ⟨n, isName⟩ := Option.isSome_iff_exists.mp name
    exact ⟨⟨d, s, n⟩, (resolves ⟨d, s, n⟩).mpr ⟨isDatabase, isSchema, isName⟩⟩

end Compile

/-- Promotion is refused only for a view without a name, and compilation for any target that is not complete.
So the views that can be compiled for on their own are those that can be promoted to, less those of which the
database or the schema is blank. -/
theorem promotion_refuses_less (o : Ontology) (environments : List Environment)
    (provider : Option Provider) (options : PromotionOptions) (any : environments ≠ []) :
    ((∃ b, Promotion.bundle o environments provider options = .ok b) ↔
      ∀ e ∈ environments, Text.allBlank e.2.name = false) ∧
    (∀ compileOptions, (∃ b, Compile.bundle o compileOptions = .ok b) ↔
      ∃ view, Compile.resolveView o compileOptions = .ok view ∧ view.Complete) ∧
    ((∀ e ∈ environments, ∃ b,
        Compile.bundle o.unplaced (.naming e.2 options.version options.time) = .ok b) ↔
      (∃ b, Promotion.bundle o environments provider options = .ok b) ∧
        ∀ e ∈ environments, Text.allBlank e.2.database = false ∧ Text.allBlank e.2.schema = false) := by
  have promoted : (∃ b, Promotion.bundle o environments provider options = .ok b) ↔
      ∀ e ∈ environments, Text.allBlank e.2.name = false := by
    constructor
    · rintro ⟨b, built⟩
      exact (Promotion.bundle_ok built).1
    · exact Promotion.bundle_isOk any
  refine ⟨promoted, fun compileOptions => ?_, ?_⟩
  · rw [Compile.bundle_isOk_iff]
    constructor
    · rintro ⟨view, resolved⟩
      exact ⟨view, resolved, Compile.resolveView_complete resolved⟩
    · rintro ⟨view, resolved, _⟩
      exact ⟨view, resolved⟩
  · simp only [Compile.unplaced_isOk_iff]
    rw [promoted]
    constructor
    · intro complete
      exact ⟨fun e listed => (complete e listed).name,
        fun e listed => ⟨(complete e listed).database, (complete e listed).schema⟩⟩
    · rintro ⟨named, placed⟩ e listed
      exact ⟨(placed e listed).1, (placed e listed).2, named e listed⟩

theorem orders_compiled_alone : Drift.orderEnvironments ≠ [] ∧
    ∀ e ∈ Drift.orderEnvironments, ∃ b,
      Compile.bundle Drift.developedOrders.unplaced (.naming e.2 (some 1) ⟨0⟩) = .ok b := by
  have any : Drift.orderEnvironments ≠ [] := by decide
  obtain ⟨_, _, alone⟩ :=
    promotion_refuses_less Drift.developedOrders Drift.orderEnvironments none ⟨some 1, ⟨0⟩⟩ any
  exact ⟨any, alone.mpr ⟨Drift.orders_promoted, by decide⟩⟩

/-- A view in no database. -/
def nowhereView : View := ⟨"", "PUBLIC", "orders"⟩

/-- Orders are promoted to a view in no database, which they cannot be compiled for. -/
theorem nowhere_promoted : ¬ nowhereView.Complete ∧
    (∃ b, Promotion.bundle Drift.developedOrders [("prod", nowhereView)] none
        ⟨some 1, ⟨0⟩⟩ = .ok b ∧
      b.file? s!"prod/{Compile.deployPath}" = some ⟨s!"prod/{Compile.deployPath}",
        Sql.deployScript nowhereView (Model.build (Promotion.retarget Drift.developedOrders nowhereView)
          nowhereView).render (some 1)⟩) ∧
    Compile.bundle Drift.developedOrders.unplaced (.naming nowhereView (some 1) ⟨0⟩) =
      .error .missingDatabase := by
  refine ⟨fun complete => absurd complete.database (by decide), ?_, rfl⟩
  obtain ⟨b, built⟩ : ∃ b, Promotion.bundle Drift.developedOrders [("prod", nowhereView)] none
      ⟨some 1, ⟨0⟩⟩ = .ok b := Promotion.bundle_isOk (by decide) (by decide)
  exact ⟨b, built, Promotion.deploy_found (by decide) built (List.mem_singleton.mpr rfl)⟩

end SemanticLayer
