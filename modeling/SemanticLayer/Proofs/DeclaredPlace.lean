import Mathlib.Data.List.DropRight
import SemanticLayer.Config.Basic
import SemanticLayer.Provider.Catalog

/-! Where a view is deployed if both its ontology and the configuration have a place for it. The place of
the ontology is kept, with the configured one for what it leaves out, just where the two do not contradict
each other (`declared_place_kept_iff`); otherwise the configured one is taken, though the tables are looked
up where the ontology says (`scratch_orders_misplaced`). -/
namespace SemanticLayer

/-! ### Trimmed texts -/

namespace Text

theorem trimEnd_eq (cs : List Char) : trimEnd cs = cs.rdropWhile isBlank := rfl

theorem trimChars_trimChars (cs : List Char) : trimChars (trimChars cs) = trimChars cs := by
  -- what is left of a text without blanks before it starts as the text does
  have opening : (trimEnd (cs.dropWhile isBlank)).dropWhile isBlank = trimEnd (cs.dropWhile isBlank) := by
    have start : trimEnd (cs.dropWhile isBlank) <+: cs.dropWhile isBlank := List.rdropWhile_prefix _ _
    have shown := List.dropWhile_eq_self_iff.mp (List.dropWhile_idempotent isBlank cs)
    refine List.dropWhile_eq_self_iff.mpr fun nonempty => ?_
    rw [start.getElem nonempty]
    exact shown (nonempty.trans_le start.length_le)
  rw [trimChars, trimChars, opening, trimEnd_eq, trimEnd_eq, List.rdropWhile_idempotent]

theorem nonBlank?_again {s t : String} (found : nonBlank? s = some t) : nonBlank? t = some t := by
  simp only [nonBlank?, Option.ite_none_left_eq_some, Option.some.injEq] at found
  obtain ⟨nonempty, rfl⟩ := found
  have again : trim (trim s) = trim s := by
    simp only [trim, String.toList_ofList, trimChars_trimChars]
  simp [nonBlank?, again, nonempty]

/-- Nothing is left of a text just if it is blank. -/
theorem trimChars_eq_nil {cs : List Char} : trimChars cs = [] ↔ ∀ c ∈ cs, isBlank c = true := by
  rw [trimChars, trimEnd_eq, List.rdropWhile_eq_nil_iff, ← List.dropWhile_eq_nil_iff,
    List.dropWhile_idempotent, List.dropWhile_eq_nil_iff]

theorem nonBlank?_isSome {s : String} : (nonBlank? s).isSome = true ↔ allBlank s = false := by
  have empty : trim s = "" ↔ allBlank s = true := by
    rw [allBlank, List.all_eq_true, ← trimChars_eq_nil, trim, String.ofList_eq_empty_iff]
  by_cases blank : allBlank s = true
  · simp [nonBlank?, empty, blank]
  · simp [nonBlank?, empty, blank]

/-- What is found not to be blank is not. -/
theorem nonBlank?_shown {s t : String} (found : nonBlank? s = some t) : allBlank t = false :=
  nonBlank?_isSome.mp (by rw [nonBlank?_again found, Option.isSome_some])

/-- A text that was found not to be blank is not trimmed any further. -/
theorem bind_nonBlank? (s : String) : (nonBlank? s).bind nonBlank? = nonBlank? s := by
  cases found : nonBlank? s with
  | none => rfl
  | some t => rw [Option.bind_some, nonBlank?_again found]

end Text

/-! ### Places of views -/

/-- What the mapping of an ontology says of the place of its view; blank is nothing. -/
def Ontology.declared? (o : Ontology) (field : Mapping → String) : Option String :=
  o.mapping.bind fun m => Text.nonBlank? (field m)

/-- Two names do not contradict each other if they are the same where both are given. -/
def Agree (a b : Option String) : Prop := ∀ x ∈ a, ∀ y ∈ b, x = y

theorem orElse_eq_iff {a b : Option String} {place : String} (found : (a <|> b) = some place) :
    (b <|> a) = some place ↔ Agree b a := by
  cases a with
  | none =>
    have here : b = some place := found
    simp [here, Agree]
  | some x =>
    cases found
    cases b with
    | none => simp [Agree]
    | some y => simp [Agree]

namespace Compile
variable {o : Ontology} {options : CompileOptions} {view : View}

/-- The name of a view: the given one, which must not be blank, else that of the ontology. -/
def viewName? (o : Ontology) (given : Option String) : Option String :=
  given.elim (some (defaultViewName o)) Text.nonBlank?

theorem elim_ok {ε α : Type} {a : Option α} {e : ε} {x : α} :
    a.elim (.error e) .ok = Except.ok x ↔ a = some x := by
  cases a <;> simp

theorem bind_ok {ε α β : Type} {x : Except ε α} {f : α → Except ε β} {b : β} :
    x >>= f = .ok b ↔ ∃ a, x = .ok a ∧ f a = .ok b := by
  cases x <;> simp [bind, Except.bind]

/-- The options come first in all three parts of the name of a view. -/
theorem resolveView_ok : resolveView o options = .ok view ↔
    (options.database.bind Text.nonBlank? <|> o.declared? Mapping.database) = some view.database ∧
    (options.schema.bind Text.nonBlank? <|> o.declared? Mapping.schema) = some view.schema ∧
    viewName? o options.viewName = some view.name := by
  obtain ⟨database, schema, name⟩ := view
  cases given : options.viewName with
  | none => simp [resolveView, given, bind_ok, elim_ok, viewName?, Ontology.declared?, pure, Except.pure]
  | some n => simp [resolveView, given, bind_ok, elim_ok, viewName?, Ontology.declared?, pure, Except.pure]

/-- A configured name of a view is never blank, as blank ones are not set. -/
theorem viewName?_configured (o : Ontology) (name : String) :
    viewName? o (Text.nonBlank? name) = some ((Text.nonBlank? name).getD (defaultViewName o)) := by
  cases named : Text.nonBlank? name with
  | none => rfl
  | some n => rw [viewName?, Option.elim_some, Text.nonBlank?_again named, Option.getD_some]

theorem resolveView_configured {c : Config} {time : Instant} :
    resolveView o (c.compileOptions time) = .ok view ↔
      (Text.nonBlank? c.database <|> o.declared? Mapping.database) = some view.database ∧
      (Text.nonBlank? c.schema <|> o.declared? Mapping.schema) = some view.schema ∧
      (Text.nonBlank? c.viewName).getD (defaultViewName o) = view.name := by
  rw [resolveView_ok]
  simp only [Config.compileOptions, Text.bind_nonBlank?, viewName?_configured, Option.some.injEq]

end Compile

/-- An ontology compiles if it or the configuration has each part of a place for its view. The view is
put where the ontology says, and where the configuration says only for what the ontology leaves out, just
if the two do not contradict each other; for where they do, the configuration counts. -/
theorem declared_place_kept_iff (c : Config) (time : Instant) (o : Ontology)
    (database : (o.declared? Mapping.database <|> Text.nonBlank? c.database).isSome)
    (schema : (o.declared? Mapping.schema <|> Text.nonBlank? c.schema).isSome) :
    ∃ view, Compile.resolveView o (c.compileOptions time) = .ok view ∧
      view.name = (Text.nonBlank? c.viewName).getD (Compile.defaultViewName o) ∧
      (Text.nonBlank? c.database <|> o.declared? Mapping.database) = some view.database ∧
      (Text.nonBlank? c.schema <|> o.declared? Mapping.schema) = some view.schema ∧
      ((o.declared? Mapping.database <|> Text.nonBlank? c.database) = some view.database ↔
        Agree (o.declared? Mapping.database) (Text.nonBlank? c.database)) ∧
      ((o.declared? Mapping.schema <|> Text.nonBlank? c.schema) = some view.schema ↔
        Agree (o.declared? Mapping.schema) (Text.nonBlank? c.schema)) := by
  have either {a b : Option String} (some : (a <|> b).isSome) : ∃ place, (b <|> a) = .some place := by
    cases a <;> cases b <;> simp_all
  obtain ⟨d, databaseFound⟩ := either database
  obtain ⟨s, schemaFound⟩ := either schema
  obtain ⟨n, named⟩ : ∃ n, (Text.nonBlank? c.viewName).getD (Compile.defaultViewName o) = n := ⟨_, rfl⟩
  refine ⟨⟨d, s, n⟩, Compile.resolveView_configured.mpr ⟨databaseFound, schemaFound, named⟩, named.symm,
    databaseFound, schemaFound, ?_, ?_⟩
  · exact orElse_eq_iff databaseFound
  · exact orElse_eq_iff schemaFound

/-- Orders that are stored in a place of their own. -/
def placedOrders : Ontology where
  version := "1"
  name := "Sales"
  description := ""
  objects := [⟨"Order", "", ["id"], [⟨"id", .integer, "", false, true⟩], none, none, none⟩]
  relationships := []
  metrics := []
  dimensions := []
  mapping := some ⟨"SALES", "PUBLIC", none, []⟩

/-- A configuration with a database and nothing else. -/
def scratchConfig (database : String) : Config := { Config.default with database := database }

theorem placed_orders_kept :
    ((placedOrders.declared? Mapping.database <|> Text.nonBlank? "SALES\n").isSome ∧
      (placedOrders.declared? Mapping.schema <|> Text.nonBlank? "").isSome) ∧
    Compile.resolveView placedOrders ((scratchConfig "SALES\n").compileOptions ⟨0⟩) =
      .ok ⟨"SALES", "PUBLIC", "sales_semantic_view"⟩ := by
  refine ⟨by decide, ?_⟩
  obtain ⟨⟨d, s, n⟩, resolves, name, -, -, database, schema⟩ :=
    declared_place_kept_iff (scratchConfig "SALES\n") ⟨0⟩ placedOrders (by decide) (by decide)
  have declaredDatabase : placedOrders.declared? Mapping.database = some "SALES" := by decide
  have configuredDatabase : Text.nonBlank? (scratchConfig "SALES\n").database = some "SALES" := by decide
  have declaredSchema : placedOrders.declared? Mapping.schema = some "PUBLIC" := by decide
  have configuredSchema : Text.nonBlank? (scratchConfig "SALES\n").schema = none := by decide
  have named : n = "sales_semantic_view" := name.trans (by decide)
  rw [declaredDatabase, configuredDatabase] at database
  rw [declaredSchema, configuredSchema] at schema
  obtain rfl : "SALES" = d := by simpa [Agree] using database
  obtain rfl : "PUBLIC" = s := by simpa [Agree] using schema
  rw [resolves, named]

/-- A configured database is taken in the place of that of the ontology, in which the tables are. -/
theorem scratch_orders_misplaced :
    placedOrders.declared? Mapping.database = some "SALES" ∧
    placedOrders.declared? Mapping.schema = some "PUBLIC" ∧
    Compile.resolveView placedOrders ((scratchConfig "SCRATCH").compileOptions ⟨0⟩) =
      .ok ⟨"SCRATCH", "PUBLIC", "sales_semantic_view"⟩ ∧
    Drift.mappingDrift placedOrders
      (Catalog.empty.addTable ⟨"SALES", "PUBLIC", "order", [⟨"id", "NUMBER", false⟩]⟩).provider
      (scratchConfig "SCRATCH").driftOptions.database (scratchConfig "SCRATCH").driftOptions.schema =
        .ok [] := by
  refine ⟨by decide, by decide, Compile.resolveView_configured.mpr ?_, ?_⟩
  · decide
  · rfl

end SemanticLayer
