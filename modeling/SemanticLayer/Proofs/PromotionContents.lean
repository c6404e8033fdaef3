import SemanticLayer.Proofs.PromotedDeployment

/-! What a promotion bundle holds. Environments are put in one order, by rank and then by name, and what is
written follows it: the steps in it, the way back against it. Each environment has a directory of its own, so
no two files share a path. Main statement: `bundle_complete`. -/
namespace SemanticLayer.Promotion
variable {o : Ontology} {environments order : List Environment} {provider : Option Provider}
  {options : PromotionOptions} {version : Option Int} {e : Environment} {f : Artifact} {b : Bundle}

/-! ### The order of a promotion -/

/-- When it is the turn of environments with a name: those for development come first and those for production last;
names that are not known stand before production. -/
def turn (name : String) : Nat :=
  let word := foldWord name
  if word ∈ ["dev", "development", "local"] then 0
  else if word ∈ ["test", "qa", "ci"] then 1
  else if word ∈ ["staging", "stage", "uat", "preprod"] then 2
  else if word ∈ ["prod", "production", "live"] then 4
  else 3

theorem rank_eq (name : String) : rank name = turn name := by
  unfold rank turn
  generalize foldWord name = word
  dsimp only
  by_cases known : word ∈ ranks.map Prod.fst
  · revert word
    decide
  · have unknown : Keyed.get? word ranks = none := by simpa using mt Keyed.get?_isSome.mp known
    rw [unknown]
    simp [ranks] at known
    simp [known]

/-- An environment comes before another one. -/
def Before (a b : Environment) : Prop :=
  turn a.1 < turn b.1 ∨ turn a.1 = turn b.1 ∧ a.1 < b.1

/-- The environments in the order of a promotion. -/
structure InOrder (environments order : List Environment) : Prop where
  perm : order.Perm environments
  increasing : order.Pairwise Before

/-- What environments are sorted by. -/
def sortKey (e : Environment) : ℕ ×ₗ String := toLex (rank e.1, e.1)

theorem sortKey_le {a b : Environment} :
    sortKey a ≤ sortKey b ↔ rank a.1 < rank b.1 ∨ rank a.1 = rank b.1 ∧ a.1 ≤ b.1 := by
  rw [sortKey, sortKey, Prod.Lex.toLex_le_toLex]

theorem ordered_sorted (environments : List Environment) :
    (ordered environments).Pairwise fun a b => sortKey a ≤ sortKey b := by
  have le_iff (a b : Environment) :
      (decide (rank a.1 < rank b.1) || (decide (rank a.1 = rank b.1) && textLe a.1 b.1)) = true ↔
        sortKey a ≤ sortKey b := by
    simp only [sortKey_le, Bool.or_eq_true, Bool.and_eq_true, decide_eq_true_eq, textLe_iff]
  have sorted := @List.pairwise_mergeSort Environment
    (fun a b => rank a.1 < rank b.1 || (rank a.1 = rank b.1 && textLe a.1 b.1))
    (fun a b c ab bc => (le_iff a c).mpr (((le_iff a b).mp ab).trans ((le_iff b c).mp bc)))
    (fun a b => by
      rw [Bool.or_eq_true, le_iff, le_iff]
      exact le_total _ _) environments
  exact sorted.imp fun {a b} le => (le_iff a b).mp le

theorem ordered_inOrder (distinct : (environments.map Prod.fst).Nodup) :
    InOrder environments (ordered environments) where
  perm := ordered_perm environments
  increasing := by
    have names : (ordered environments).Pairwise fun a b => a.1 ≠ b.1 :=
      List.pairwise_map.mp (((ordered_perm environments).map Prod.fst).nodup_iff.mpr distinct)
    refine ((ordered_sorted environments).and names).imp ?_
    rintro a b ⟨le, different⟩
    rw [Before, ← rank_eq, ← rank_eq]
    rcases sortKey_le.mp le with lower | ⟨same, before⟩
    · exact .inl lower
    · exact .inr ⟨same, lt_of_le_of_ne before different⟩

/-! ### Promotions without a bundle -/

theorem bundle_empty : bundle o [] provider options = .error .noEnvironments := by
  have nothing : ordered [] = [] := (ordered_perm []).eq_nil
  unfold bundle
  rw [nothing]
  rfl

/-- The first environment the view of which has no name is reported. -/
theorem bundle_unnamed {before after : List Environment}
    (split : ordered environments = before ++ e :: after)
    (named : ∀ x ∈ before, Text.allBlank x.2.name = false) (blank : Text.allBlank e.2.name = true) :
    bundle o environments provider options = .error (.compile e.1 .emptyViewName) := by
  have fails : stage o provider options.version e = .error (.compile e.1 .emptyViewName) := by
    have unnamed : Compile.forView (retarget o e.2) e.2 options.version = .error .emptyViewName :=
      if_pos blank
    simp only [stage, unnamed]
  have stops : (before ++ e :: after).mapM (stage o provider options.version) =
      .error (.compile e.1 .emptyViewName) := by
    rw [List.mapM_append, stages_isOk named, List.mapM_cons, fails]
    rfl
  unfold bundle
  rw [split, stops]
  rfl

theorem bundle_noEnvironments : bundle o environments provider options = .error .noEnvironments ↔
    environments = [] := by
  constructor
  · intro refused
    -- Some environment: then the first one without a name is reported, or else there is a bundle.
    by_contra any
    cases unnamed : (ordered environments).find? fun e => Text.allBlank e.2.name with
    | none =>
      have named : ∀ e ∈ environments, Text.allBlank e.2.name = false := fun e listed =>
        Bool.eq_false_iff.mpr (List.find?_eq_none.mp unnamed e
          ((ordered_perm environments).mem_iff.mpr listed))
      obtain ⟨b, built⟩ := bundle_isOk any named
      exact nomatch built.symm.trans refused
    | some e =>
      obtain ⟨blank, before, after, split, named⟩ := List.find?_eq_some_iff_append.mp unnamed
      have reported : bundle o environments provider options = .error (.compile e.1 .emptyViewName) :=
        bundle_unnamed split (fun x earlier => by simpa using named x earlier) blank
      exact nomatch reported.symm.trans refused
  · rintro rfl
    exact bundle_empty

/-! ### The files of an environment -/

/-- The provider has an earlier definition of a view. -/
def Exports (provider : Option Provider) (view : View) (yaml : String) : Prop :=
  ∃ p found, provider = some p ∧ p.view? view.database view.schema view.name = .ok (some found) ∧
    found.yaml = yaml

section Plan
variable {view : View} {yaml : String}

theorem exported?_eq_some :
    RollbackPlan.exported? view provider = some yaml ↔ Exports provider view yaml := by
  unfold RollbackPlan.exported? Exports
  cases provider with
  | none => simp
  | some p =>
    cases answer : p.view? view.database view.schema view.name with
    | error e => simp [answer]
    | ok found => cases found <;> simp [answer]

theorem plan_exported :
    (RollbackPlan.of view provider).exportedYaml = some yaml ↔ Exports provider view yaml := by
  rw [← exported?_eq_some, RollbackPlan.of]
  cases RollbackPlan.exported? view provider <;> simp

theorem plan_restores (earlier : Exports provider view yaml) : (RollbackPlan.of view provider).sql =
    Sql.restoreHeading view ++ Sql.createCall view yaml false ++ "\n" ++ Sql.existenceCheck view := by
  rw [RollbackPlan.of, exported?_eq_some.mpr earlier, ← Sql.restoreScript_eq]

theorem plan_drops (unknown : ∀ yaml, ¬ Exports provider view yaml) :
    (RollbackPlan.of view provider).sql = Sql.dropHeading view ++ Sql.existenceCheck view := by
  have none : RollbackPlan.exported? view provider = none :=
    Option.eq_none_iff_forall_ne_some.mpr fun yaml exported => unknown yaml (exported?_eq_some.mp exported)
  rw [RollbackPlan.of, none, ← Sql.dropScript_eq]

end Plan

/-- The model as it is rendered for a view. -/
def modelText (o : Ontology) (view : View) : String := (Model.build (retarget o view) view).render

/-- The path of a file below the directory of an environment. -/
def below (e : Environment) (file : String) : String := e.1 ++ "/" ++ file

/-- What belongs below the directory of an environment. A script that restores the earlier definition of a
view comes with that definition; where there is none, the view is dropped. -/
inductive EnvironmentFile (o : Ontology) (provider : Option Provider) (version : Option Int)
    (e : Environment) : Artifact → Prop
  | verify : EnvironmentFile o provider version e ⟨below e "verify.sql",
      Sql.verifyHeading e.2 version ++ Sql.createCall e.2 (modelText o e.2) true⟩
  | deploy : EnvironmentFile o provider version e ⟨below e "deploy.sql",
      Sql.deployHeading e.2 version ++ Sql.createCall e.2 (modelText o e.2) false ++ Sql.deployNote ++
        Sql.existenceCheck e.2⟩
  | restore {yaml : String} (earlier : Exports provider e.2 yaml) : EnvironmentFile o provider version e
      ⟨below e "rollback.sql",
        Sql.restoreHeading e.2 ++ Sql.createCall e.2 yaml false ++ "\n" ++ Sql.existenceCheck e.2⟩
  | drop (unknown : ∀ yaml, ¬ Exports provider e.2 yaml) : EnvironmentFile o provider version e
      ⟨below e "rollback.sql", Sql.dropHeading e.2 ++ Sql.existenceCheck e.2⟩
  | earlier {yaml : String} (earlier : Exports provider e.2 yaml) : EnvironmentFile o provider version e
      ⟨below e "rollback_semantic_model.yaml", yaml⟩

theorem staged_files : f ∈ (staged o provider version e).files ↔
    EnvironmentFile o provider version e f := by
  simp only [Stage.files, List.mem_append, List.mem_cons, List.not_mem_nil, or_false, Option.mem_toList,
    Option.map_eq_some_iff, staged, plan_exported, Sql.verifyScript_eq, Sql.deployScript_eq]
  constructor
  · intro member
    rcases member with (rfl | rfl | rfl) | ⟨yaml, earlier, rfl⟩
    · exact .verify
    · exact .deploy
    · by_cases known : ∃ yaml, Exports provider e.2 yaml
      · obtain ⟨yaml, earlier⟩ := known
        rw [plan_restores earlier]
        exact .restore earlier
      · have unknown := not_exists.mp known
        rw [plan_drops unknown]
        exact .drop unknown
    · exact .earlier earlier
  · intro file
    cases file with
    | verify => exact .inl (.inl rfl)
    | deploy => exact .inl (.inr (.inl rfl))
    | restore earlier =>
      rw [plan_restores earlier]
      exact .inl (.inr (.inr rfl))
    | drop unknown =>
      rw [plan_drops unknown]
      exact .inl (.inr (.inr rfl))
    | earlier earlier => exact .inr ⟨_, earlier, rfl⟩

/-- What belongs below the directory of an environment stands there, under the name of a file. -/
theorem EnvironmentFile.path (file : EnvironmentFile o provider version e f) :
    ∃ name ∈ stageFiles, f.path = e.1 ++ "/" ++ name ∧
      (name = rollbackModelPath → Exports provider e.2 f.content) := by
  cases file with
  | verify => exact ⟨Compile.verifyPath, by decide, rfl, nofun⟩
  | deploy => exact ⟨Compile.deployPath, by decide, rfl, nofun⟩
  | restore _ => exact ⟨rollbackSqlPath, by decide, rfl, nofun⟩
  | drop _ => exact ⟨rollbackSqlPath, by decide, rfl, nofun⟩
  | earlier earlier => exact ⟨rollbackModelPath, by decide, rfl, fun _ => earlier⟩

/-! ### All files -/

/-- What stands before the steps of a promotion. -/
def instructionsHeading (version : Option Int) : String :=
  "# Promotion workflow\n\n" ++
  s!"Version: {Sql.versionWords version}\n\n" ++
  "Promote one environment at a time in the order below, starting with the first.\n" ++
  "Move on only after the current environment's deploy check returns the view.\n" ++
  "`semantic_model.yaml` is the model as rendered for the first environment; each\n" ++
  "environment's scripts embed the model with its own database and schema.\n\n"

/-- A step of a promotion: it has a number, names an environment and its view, and says which of its files to run. -/
def stepText (number : Nat) (e : Environment) : String :=
  let view := Sql.nameInFull e.2
  let verify := below e "verify.sql"
  let deploy := below e "deploy.sql"
  s!"## {number}. {e.1} (`{view}`)\n\n" ++
  s!"1. Run `{verify}` and confirm it succeeds.\n" ++
  s!"2. Run `{deploy}`.\n" ++
  "3. Confirm the exact-name lookup after `SHOW SEMANTIC VIEWS` returns the view.\n\n"

/-- What stands after the steps of a promotion. -/
def instructionsClosing : String :=
  "Compare the checksum in `metadata.json` with the reviewed bundle before each step.\n"

/-- What stands before the entries of the way back. -/
def rollbackHeading : String :=
  "# Rollback\n\n" ++
  "Roll back in reverse promotion order, starting with the last environment deployed.\n\n"

/-- An entry of the way back: it names an environment and its view, and says which of its files to run and what that
does. -/
def entryText (e : Environment) (effect : String) : String :=
  let view := Sql.nameInFull e.2
  let rollback := below e "rollback.sql"
  s!"- **{e.1}** (`{view}`): run `{rollback}`, " ++ s!"which {effect}.\n"

/-- The entry of an environment. It says where the earlier definition of the view is, or that there is none. -/
inductive RollbackEntry (provider : Option Provider) (e : Environment) : String → Prop
  | restore {yaml : String} (earlier : Exports provider e.2 yaml) : RollbackEntry provider e
      (entryText e ("restores the previously deployed definition " ++
        "(saved as `" ++ below e "rollback_semantic_model.yaml" ++ "`)"))
  | drop (unknown : ∀ yaml, ¬ Exports provider e.2 yaml) : RollbackEntry provider e
      (entryText e "drops the view; no previous definition was exported")

/-- What belongs into a bundle that promotes through environments in the given order: what belongs to each of
them, the model of the first one, a numbered step for each, an entry for each on the way back, and what the
bundle says of itself. -/
inductive PromotionFile (o : Ontology) (provider : Option Provider) (version : Option Int)
    (order : List Environment) (metadata : Metadata) : Artifact → Prop
  | environment {e : Environment} {f : Artifact} (listed : e ∈ order)
      (file : EnvironmentFile o provider version e f) : PromotionFile o provider version order metadata f
  | model {e : Environment} (first : order.head? = some e) :
      PromotionFile o provider version order metadata ⟨"semantic_model.yaml", modelText o e.2⟩
  | instructions : PromotionFile o provider version order metadata
      ⟨"instructions.md", instructionsHeading version ++
        String.join (order.zipIdx.map fun step => stepText (step.2 + 1) step.1) ++ instructionsClosing⟩
  | rollback {entries : List String} (each : List.Forall₂ (RollbackEntry provider) order.reverse entries) :
      PromotionFile o provider version order metadata ⟨"rollback.md", rollbackHeading ++ String.join entries⟩
  | metadata : PromotionFile o provider version order metadata ⟨"metadata.json", metadata.render⟩

theorem instructions_step (number : Nat) :
    (staged o provider version e).instructions number = stepText number e := by
  unfold Stage.instructions stepText below
  simp only [staged, Sql.qualifiedName_eq, toString, String.append_assoc]
  rfl

theorem instructions_staged : instructions (order.map (staged o provider version)) version =
    instructionsHeading version ++
      String.join (order.zipIdx.map fun step => stepText (step.2 + 1) step.1) ++ instructionsClosing := by
  unfold instructions instructionsHeading instructionsClosing
  rw [List.zipIdx_map, List.map_map, Sql.versionLabel_eq]
  simp only [Function.comp_def, Prod.map, instructions_step]
  rfl

theorem rollbackNote_text :
    (staged o provider version e).rollbackNote = entryText e (staged o provider version e).strategy := by
  unfold Stage.rollbackNote entryText below
  simp only [staged, Sql.qualifiedName_eq, toString, String.append_assoc]
  rfl

theorem strategy_restore {yaml : String} (earlier : Exports provider e.2 yaml) :
    (staged o provider version e).strategy = "restores the previously deployed definition " ++
      "(saved as `" ++ below e "rollback_semantic_model.yaml" ++ "`)" := by
  have restores : (staged o provider version e).rollback.restores = true := by
    rw [RollbackPlan.restores, staged, plan_exported.mpr earlier]
    rfl
  rw [Stage.strategy, if_pos restores]
  simp only [staged, below, toString, String.append_assoc]
  rfl

theorem strategy_drop (unknown : ∀ yaml, ¬ Exports provider e.2 yaml) :
    (staged o provider version e).strategy = "drops the view; no previous definition was exported" := by
  have drops : (staged o provider version e).rollback.restores = false := by
    rw [RollbackPlan.restores, staged, Option.isSome_eq_false_iff, Option.isNone_iff_eq_none,
      Option.eq_none_iff_forall_ne_some]
    exact fun yaml exported => unknown yaml (plan_exported.mp exported)
  rw [Stage.strategy, if_neg (Bool.eq_false_iff.mp drops)]

theorem rollbackNote_entry {text : String} :
    RollbackEntry provider e text ↔ (staged o provider version e).rollbackNote = text := by
  rw [rollbackNote_text]
  constructor
  · intro entry
    cases entry with
    | restore earlier => rw [strategy_restore earlier]
    | drop unknown => rw [strategy_drop unknown]
  · rintro rfl
    by_cases known : ∃ yaml, Exports provider e.2 yaml
    · obtain ⟨yaml, earlier⟩ := known
      rw [strategy_restore earlier]
      exact .restore earlier
    · have unknown := not_exists.mp known
      rw [strategy_drop unknown]
      exact .drop unknown

theorem rollbackNotes_staged {entries : List String} :
    List.Forall₂ (RollbackEntry provider) order.reverse entries ↔
      (order.map (staged o provider version)).reverse.map Stage.rollbackNote = entries := by
  have entry : RollbackEntry provider = fun e text => (staged o provider version e).rollbackNote = text := by
    funext e text
    exact propext rollbackNote_entry
  rw [entry, ← List.map_reverse, List.map_map, ← List.forall₂_eq_eq_eq, List.forall₂_map_left_iff]
  rfl

theorem promotion_files {metadata : Metadata} (first : order.head? = some e) :
    f ∈ (⟨Artifact.metadataPath, metadata.render⟩ :: files (staged o provider version e)
      (order.map (staged o provider version)) version : List Artifact) ↔
      PromotionFile o provider version order metadata f := by
  simp only [files, instructions_staged, List.mem_cons, List.mem_append, List.not_mem_nil, or_false,
    List.mem_flatMap, List.mem_map, exists_exists_and_eq_and, staged_files]
  constructor
  · intro member
    rcases member with rfl | ⟨x, listed, file⟩ | rfl | rfl | rfl
    · exact .metadata
    · exact .environment listed file
    · exact .model first
    · exact .instructions
    · exact .rollback (rollbackNotes_staged.mpr rfl)
  · intro file
    cases file with
    | environment listed file => exact .inr (.inl ⟨_, listed, file⟩)
    | model here =>
      cases first.symm.trans here
      exact .inr (.inr (.inl rfl))
    | instructions => exact .inr (.inr (.inr (.inl rfl)))
    | rollback each =>
      rw [← rollbackNotes_staged.mp each]
      exact .inr (.inr (.inr (.inr rfl)))
    | metadata => exact .inl rfl

/-- A promotion has the files that belong into it, each of a path of its own. -/
theorem bundle_files (distinct : (environments.map Prod.fst).Nodup)
    (built : bundle o environments provider options = .ok b) : b.paths.Nodup ∧
      ∀ f, f ∈ b.files ↔
        PromotionFile o provider options.version (ordered environments) b.metadata f := by
  obtain ⟨_, first, stages, same, head, assembled⟩ := bundle_ok built
  have apart : (stages.map Stage.name).Nodup := same ▸ stages_apart o provider options.version distinct
  have paths := files_paths first options.version apart
  have content : (files first stages options.version).filter Artifact.isContent =
      files first stages options.version := List.filter_eq_self.mpr (files_content apart)
  have perm := (Bundle.assemble_ok assembled).2
  rw [content] at perm
  refine ⟨(perm.map Artifact.path).nodup_iff.mpr paths, fun f => ?_⟩
  rw [same, List.head?_map, Option.map_eq_some_iff] at head
  obtain ⟨e, head, rfl⟩ := head
  rw [perm.mem_iff, same]
  exact promotion_files head

theorem PromotionFile.top_or_environment {metadata : Metadata}
    (file : PromotionFile o provider version order metadata f) :
    f.path ∈ topPaths ∨ ∃ e ∈ order, EnvironmentFile o provider version e f := by
  cases file with
  | environment listed file => exact .inr ⟨_, listed, file⟩
  | model _ => exact .inl (show "semantic_model.yaml" ∈ topPaths by decide)
  | instructions => exact .inl (show "instructions.md" ∈ topPaths by decide)
  | rollback _ => exact .inl (show "rollback.md" ∈ topPaths by decide)
  | metadata => exact .inl (show "metadata.json" ∈ topPaths by decide)

/-- A definition is saved below the directory of an environment only if its view has that one. -/
theorem PromotionFile.earlier {metadata : Metadata} (distinct : (order.map Prod.fst).Nodup)
    (listed : e ∈ order) (file : PromotionFile o provider version order metadata f)
    (path : f.path = e.1 ++ "/" ++ rollbackModelPath) : Exports provider e.2 f.content := by
  rcases file.top_or_environment with top | ⟨other, listedToo, file⟩
  · exact absurd path (top_not_below top)
  · obtain ⟨name, known, here, saved⟩ := file.path
    obtain ⟨sameName, sameFile⟩ :=
      below_injective (stageFiles_plain name known) (by decide) (here.symm.trans path)
    obtain rfl := List.inj_on_of_nodup_map distinct listedToo listed sameName
    exact saved sameFile

/-! ### Bundles -/

/-- Environments have one order, by rank and then by name, in which a bundle promotes. There is none without
environments; otherwise the first of them in that order the view of which has no name is reported; otherwise
there is a bundle. That has the files that belong to the order and no others, no two of which have the same
path, and an earlier definition is saved for just those environments that have one. -/
theorem bundle_complete (o : Ontology) (environments : List Environment) (provider : Option Provider)
    (options : PromotionOptions) (distinct : (environments.map Prod.fst).Nodup) :
    ∃ order, InOrder environments order ∧
      (bundle o environments provider options = .error .noEnvironments ↔ environments = []) ∧
      (∀ before e after, order = before ++ e :: after →
        (∀ x ∈ before, Text.allBlank x.2.name = false) → Text.allBlank e.2.name = true →
        bundle o environments provider options = .error (.compile e.1 .emptyViewName)) ∧
      (environments ≠ [] → (∀ e ∈ environments, Text.allBlank e.2.name = false) →
        ∃ b, bundle o environments provider options = .ok b ∧ b.paths.Nodup ∧
          (∀ f, f ∈ b.files ↔ PromotionFile o provider options.version order b.metadata f) ∧
          ∀ e ∈ environments, (below e "rollback_semantic_model.yaml" ∈ b.paths ↔
            ∃ yaml, Exports provider e.2 yaml)) := by
  have inOrder := ordered_inOrder distinct
  refine ⟨ordered environments, inOrder, bundle_noEnvironments, ?_, ?_⟩
  · intro before e after split named blank
    exact bundle_unnamed split named blank
  · intro any named
    obtain ⟨b, built⟩ := bundle_isOk any named
    obtain ⟨paths, files⟩ := bundle_files distinct built
    refine ⟨b, built, paths, files, fun e listed => ?_⟩
    have inPlace : e ∈ ordered environments := inOrder.perm.mem_iff.mpr listed
    constructor
    · intro member
      obtain ⟨f, here, path⟩ := List.mem_map.mp member
      have names := (inOrder.perm.map Prod.fst).nodup_iff.mpr distinct
      exact ⟨f.content, ((files f).mp here).earlier names inPlace path⟩
    · rintro ⟨yaml, earlier⟩
      exact List.mem_map_of_mem (f := Artifact.path)
        ((files _).mpr (.environment inPlace (.earlier earlier)))

/-- A warehouse in which orders are in production already. -/
def ordersInProduction : Provider :=
  (Catalog.empty.addView "PROD_DB" "PUBLIC" "orders" "name: orders\n").provider

theorem orders_bundle_complete : (Drift.orderEnvironments.map Prod.fst).Nodup ∧
    ∃ b, bundle Drift.developedOrders Drift.orderEnvironments (some ordersInProduction)
        ⟨some 1, ⟨0⟩⟩ = .ok b ∧ b.paths.Nodup ∧ "prod/rollback_semantic_model.yaml" ∈ b.paths ∧
      "dev/rollback_semantic_model.yaml" ∉ b.paths := by
  refine ⟨by decide, ?_⟩
  obtain ⟨order, _, _, _, complete⟩ := bundle_complete Drift.developedOrders Drift.orderEnvironments
    (some ordersInProduction) ⟨some 1, ⟨0⟩⟩ (by decide)
  obtain ⟨b, built, paths, _, saved⟩ := complete (by decide) (by decide)
  refine ⟨b, built, paths, ?_, ?_⟩
  · exact (saved ("prod", Drift.productionView) (by decide)).mpr
      ⟨_, _, _, rfl, Drift.deployed_answer Drift.productionView "name: orders\n", rfl⟩
  · intro member
    obtain ⟨yaml, p, found, same, answer, _⟩ :=
      (saved ("dev", Drift.developmentView) (by decide)).mp member
    obtain rfl := Option.some.inj same
    have none : ordersInProduction.view? "DEV_DB" "PUBLIC" "orders" = .ok none := rfl
    exact nomatch none.symm.trans answer

end SemanticLayer.Promotion
