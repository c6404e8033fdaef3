import SemanticLayer.Promotion.Basic
import SemanticLayer.Proofs.FreshDeployment
import SemanticLayer.Proofs.SqlScripts

/-! Promotion moves the mapping of an ontology to the place of an environment; the search for differences
does not. So the two agree on the view of an environment except for where the tables are that the mapping
places (`base_retarget`), and a deployed promotion shows no differences just where these are in the same
place either way. Main statement: `promoted_unchanged_iff`. -/
namespace SemanticLayer

/-! ### Moved ontologies -/

theorem Text.unlessEmpty_getD (s : String) : (unlessEmpty s).getD s = s := by
  by_cases empty : s = "" <;> simp [unlessEmpty, empty]

namespace Promotion
variable {o : Ontology} {view : View} {object : Object}

/-- The tables that hold objects keep their names. -/
theorem retarget_table : (retarget o view).physicalTable object = o.physicalTable object := by
  unfold Ontology.physicalTable retarget
  cases o.mapping <;> rfl

/-- A place that falls back on another is that other one, whether it is mapped to it or not, unless it is
its own or the mapping names a different one. -/
theorem placed_eq_iff (own mapped : Option String) (place : String) :
    ((own <|> mapped).bind Text.unlessEmpty).getD place =
        ((own <|> some place).bind Text.unlessEmpty).getD place ↔
      (own = none → ∀ m ∈ mapped, m = "" ∨ m = place) := by
  have fallback : ((some place).bind Text.unlessEmpty).getD place = place := Text.unlessEmpty_getD place
  cases own with
  | some own => simp
  | none =>
    show ((mapped.bind Text.unlessEmpty).getD place = ((some place).bind Text.unlessEmpty).getD place ↔ _)
    rw [fallback]
    cases mapped with
    | none => simp
    | some m => by_cases empty : m = "" <;> simp [Text.unlessEmpty, empty]

/-- Whether an object is in the same place when its ontology is moved to that of a view: it has a place
of its own, or the mapping names none or that of the view. -/
def SamePlace (o : Ontology) (view : View) (object : Object) : Prop :=
  (object.database = none → ∀ m ∈ o.mapping, m.database = "" ∨ m.database = view.database) ∧
  (object.schema = none → ∀ m ∈ o.mapping, m.schema = "" ∨ m.schema = view.schema)

theorem base_retarget (o : Ontology) (view : View) (object : Object) :
    (Model.tableOf o view object).base = (Model.tableOf (retarget o view) view object).base ↔
      SamePlace o view object := by
  have database := placed_eq_iff object.database (o.mapping.map (·.database)) view.database
  have schema := placed_eq_iff object.schema (o.mapping.map (·.schema)) view.schema
  simp only [Option.mem_map, forall_exists_index, and_imp, forall_apply_eq_imp_iff₂] at database schema
  rw [SamePlace, ← database, ← schema]
  simp only [Model.tableOf, BaseTable.mk.injEq, retarget_table, Ontology.physicalDatabase?,
    Ontology.physicalSchema?, and_true]
  rfl

end Promotion

/-! ### Files of a promotion -/

namespace Promotion
variable {o : Ontology} {environments : List Environment} {provider : Option Provider}
  {version : Option Int} {stages : List Stage} {s first : Stage}

/-- What an environment adds to a bundle if its view has a name. -/
def staged (o : Ontology) (provider : Option Provider) (version : Option Int) (e : Environment) : Stage :=
  let model := Model.build (retarget o e.2) e.2
  ⟨e.1, e.2, ⟨e.2, model, model.render, Sql.verifyScript e.2 model.render version,
    Sql.deployScript e.2 model.render version⟩, RollbackPlan.of e.2 provider⟩

theorem stage_ok {e : Environment} : stage o provider version e = .ok s ↔
    Text.allBlank e.2.name = false ∧ s = staged o provider version e := by
  obtain ⟨name, view⟩ := e
  by_cases blank : Text.allBlank view.name = true
  · have fails : Compile.forView (retarget o view) view version = .error .emptyViewName := if_pos blank
    simp only [stage, fails, blank]
    exact ⟨nofun, fun impossible => nomatch impossible.1⟩
  · have named : Text.allBlank view.name = false := Bool.eq_false_iff.mpr blank
    have compiles : Compile.forView (retarget o view) view version =
        .ok (staged o provider version (name, view)).compiled := Compile.forView_ok.mpr ⟨named, rfl⟩
    simp only [stage, compiles, named, true_and, Except.ok.injEq]
    exact eq_comm

theorem stages_ok {es : List Environment} (made : es.mapM (stage o provider version) = .ok stages) :
    (∀ e ∈ es, Text.allBlank e.2.name = false) ∧ stages = es.map (staged o provider version) := by
  induction es generalizing stages with
  | nil =>
    cases made
    exact ⟨nofun, rfl⟩
  | cons e es ih =>
    rw [List.mapM_cons] at made
    cases here : stage o provider version e with
    | error error =>
      rw [here] at made
      cases made
    | ok s =>
      obtain ⟨named, rfl⟩ := stage_ok.mp here
      cases later : es.mapM (stage o provider version) with
      | error error =>
        rw [here, later] at made
        cases made
      | ok rest =>
        obtain ⟨others, rfl⟩ := ih later
        rw [here, later] at made
        cases made
        exact ⟨List.forall_mem_cons.mpr ⟨named, others⟩, rfl⟩

theorem stages_isOk {es : List Environment} (named : ∀ e ∈ es, Text.allBlank e.2.name = false) :
    es.mapM (stage o provider version) = .ok (es.map (staged o provider version)) := by
  induction es with
  | nil => rfl
  | cons e es ih =>
    obtain ⟨here, later⟩ := List.forall_mem_cons.mp named
    rw [List.mapM_cons, stage_ok.mpr ⟨here, rfl⟩, ih later]
    rfl

theorem ordered_perm (environments : List Environment) : (ordered environments).Perm environments :=
  List.mergeSort_perm _ _

/-- A promotion that has stages is bundled as their files are assembled. -/
theorem bundle_of_stages {options : PromotionOptions} {first : Stage} {rest : List Stage}
    (staged : (ordered environments).mapM (stage o provider options.version) = .ok (first :: rest)) :
    bundle o environments provider options = (Bundle.assemble s!"{first.view.name}_promotion"
      (files first (first :: rest) options.version) (targetId (first :: rest)) options.version
      options.time).mapError .missingFile := by
  unfold bundle
  rw [staged]
  simp only [bind, Except.bind]
  cases Bundle.assemble s!"{first.view.name}_promotion" (files first (first :: rest) options.version)
    (targetId (first :: rest)) options.version options.time <;> rfl

/-- A promotion has the files of a stage for each environment, the view of which has a name. -/
theorem bundle_ok {options : PromotionOptions} {b : Bundle}
    (built : bundle o environments provider options = .ok b) :
    (∀ e ∈ environments, Text.allBlank e.2.name = false) ∧
    ∃ first stages, stages = (ordered environments).map (staged o provider options.version) ∧
      stages.head? = some first ∧
      Bundle.assemble s!"{first.view.name}_promotion" (files first stages options.version)
        (targetId stages) options.version options.time = .ok b := by
  cases made : (ordered environments).mapM (stage o provider options.version) with
  | error error =>
    rw [bundle, made] at built
    cases built
  | ok stages =>
    obtain ⟨named, same⟩ := stages_ok made
    refine ⟨fun e listed => named e ((ordered_perm environments).mem_iff.mpr listed), ?_⟩
    cases stages with
    | nil =>
      rw [bundle, made] at built
      cases built
    | cons first rest =>
      refine ⟨first, first :: rest, same, rfl, ?_⟩
      rwa [bundle_of_stages made, Bundle.mapError_ok] at built

/-- Environments of which each has a view of a name can be promoted to, if there are any. -/
theorem bundle_isOk {options : PromotionOptions} (any : environments ≠ [])
    (named : ∀ e ∈ environments, Text.allBlank e.2.name = false) :
    ∃ b, bundle o environments provider options = .ok b := by
  have perm := ordered_perm environments
  have made : (ordered environments).mapM (stage o provider options.version) = _ :=
    stages_isOk fun e listed => named e (perm.mem_iff.mp listed)
  cases order : ordered environments with
  | nil =>
    rw [order] at perm
    exact absurd perm.nil_eq.symm any
  | cons e es =>
    rw [order, List.map_cons] at made
    have assembles := fun first stages => @Bundle.assemble_isOk s!"{first.view.name}_promotion"
      (targetId stages) (files first stages options.version) options.version options.time
      (by simp [files]) (by simp [files])
    obtain ⟨b, assembled⟩ := assembles (staged o provider options.version e)
      (staged o provider options.version e :: es.map (staged o provider options.version))
    rw [← order] at made
    exact ⟨b, by rw [bundle_of_stages made, Bundle.mapError_ok, assembled]⟩

/-- A path below a directory tells the directory from the name of the file. -/
theorem below_injective {name other file file' : String} (plain : '/' ∉ file.toList)
    (plainToo : '/' ∉ file'.toList) (same : name ++ "/" ++ file = other ++ "/" ++ file') :
    name = other ∧ file = file' := by
  have chars (name file : String) : (name ++ "/" ++ file).toList.reverse =
      file.toList.reverse ++ '/' :: name.toList.reverse := by
    simp [String.toList_append]
  have reversed := congrArg (·.toList.reverse) same
  simp only [chars] at reversed
  obtain ⟨files, names⟩ := cut_first (by simpa using plain) (by simpa using plainToo) reversed
  exact ⟨String.toList_inj.mp (List.reverse_injective names),
    String.toList_inj.mp (List.reverse_injective files)⟩

theorem slash_below (name file : String) : '/' ∈ (name ++ "/" ++ file).toList := by
  simp [String.toList_append]

/-- The paths of the files that are below no directory. -/
def topPaths : List String :=
  [Compile.modelPath, Artifact.instructionsPath, Artifact.rollbackPath, Artifact.metadataPath]

theorem top_not_below {path name file : String} (top : path ∈ topPaths) : path ≠ name ++ "/" ++ file := by
  have plain : ∀ path ∈ topPaths, '/' ∉ path.toList := by decide
  rintro rfl
  exact plain _ top (slash_below name file)

/-- The names of the files of an environment; the last one is not always there. -/
def stageFiles : List String := [Compile.verifyPath, Compile.deployPath, rollbackSqlPath, rollbackModelPath]

theorem stageFiles_plain : ∀ file ∈ stageFiles, '/' ∉ file.toList := by decide

theorem stage_paths (s : Stage) :
    (s.files.map Artifact.path).Sublist (stageFiles.map (s.name ++ "/" ++ ·)) := by
  unfold Stage.files
  cases s.rollback.exportedYaml with
  | none => exact List.sublist_append_left [_, _, _] [_]
  | some yaml => exact List.Sublist.refl _

theorem stage_path {path : String} (member : path ∈ s.files.map Artifact.path) :
    ∃ file ∈ stageFiles, s.name ++ "/" ++ file = path :=
  List.mem_map.mp ((stage_paths s).mem member)

/-- The files of one environment have different paths. -/
theorem stage_paths_nodup (s : Stage) : (s.files.map Artifact.path).Nodup := by
  refine List.Nodup.sublist (stage_paths s) (List.Nodup.map_on ?_ (by decide))
  intro file listed other listedToo same
  exact (below_injective (stageFiles_plain file listed) (stageFiles_plain other listedToo) same).2

/-- No two files of a promotion have the same path, and none has that of the metadata, if no two
environments have the same name. -/
theorem files_paths (first : Stage) (version : Option Int) (apart : (stages.map Stage.name).Nodup) :
    (Artifact.metadataPath :: (files first stages version).map Artifact.path).Nodup := by
  have below : (stages.flatMap fun s => s.files.map Artifact.path).Nodup := by
    refine List.nodup_flatMap.mpr ⟨fun s _ => stage_paths_nodup s, ?_⟩
    refine (List.pairwise_map.mp apart).imp ?_
    intro s t different path here there
    obtain ⟨file, listed, rfl⟩ := stage_path here
    obtain ⟨other, listedToo, same⟩ := stage_path there
    exact different
      (below_injective (stageFiles_plain file listed) (stageFiles_plain other listedToo) same.symm).1
  -- The metadata is moved to the end, among the files that are below no directory.
  have all : ((stages.flatMap fun s => s.files.map Artifact.path) ++ topPaths).Nodup := by
    refine List.nodup_append.mpr ⟨below, by decide, ?_⟩
    rintro path here _ top rfl
    obtain ⟨s, _, made⟩ := List.mem_flatMap.mp here
    obtain ⟨file, _, same⟩ := stage_path made
    exact top_not_below top same.symm
  have same : (Artifact.metadataPath :: (files first stages version).map Artifact.path).Perm
      ((stages.flatMap fun s => s.files.map Artifact.path) ++ topPaths) := by
    rw [files, List.map_append, List.map_flatMap]
    refine (List.perm_append_singleton _ _).symm.trans ?_
    rw [List.append_assoc]
    exact List.Perm.refl _
  exact same.nodup_iff.mpr all

theorem files_content (apart : (stages.map Stage.name).Nodup) :
    ∀ f ∈ files first stages version, f.isContent = true := by
  intro f member
  refine decide_eq_true fun isMetadata => ?_
  exact (List.nodup_cons.mp (files_paths first version apart)).1
    (isMetadata ▸ List.mem_map_of_mem member)

/-- Environments of different names have stages of different names. -/
theorem stages_apart (o : Ontology) (provider : Option Provider) (version : Option Int)
    (distinct : (environments.map Prod.fst).Nodup) :
    (((ordered environments).map (staged o provider version)).map Stage.name).Nodup := by
  have names : ((ordered environments).map (staged o provider version)).map Stage.name =
      (ordered environments).map Prod.fst := by
    rw [List.map_map]
    rfl
  rw [names]
  exact ((ordered_perm environments).map Prod.fst).nodup_iff.mpr distinct

/-- The script that deploys to an environment is found below its directory. -/
theorem deploy_found {options : PromotionOptions} {b : Bundle}
    (distinct : (environments.map Prod.fst).Nodup)
    (built : bundle o environments provider options = .ok b) {name : String} {view : View}
    (listed : (name, view) ∈ environments) :
    b.file? s!"{name}/{Compile.deployPath}" = some ⟨s!"{name}/{Compile.deployPath}",
      Sql.deployScript view (Model.build (retarget o view) view).render options.version⟩ := by
  obtain ⟨_, first, stages, same, _, assembled⟩ := bundle_ok built
  have apart : (stages.map Stage.name).Nodup := same ▸ stages_apart o provider options.version distinct
  have here : staged o provider options.version (name, view) ∈ stages :=
    same ▸ List.mem_map_of_mem ((ordered_perm environments).mem_iff.mpr listed)
  have member : (⟨s!"{name}/{Compile.deployPath}",
      Sql.deployScript view (Model.build (retarget o view) view).render options.version⟩ : Artifact) ∈
      files first stages options.version :=
    List.mem_append_left _ (List.mem_flatMap.mpr ⟨_, here, .tail _ (.head _)⟩)
  have paths := (List.nodup_cons.mp (files_paths first options.version apart)).2
  exact Bundle.file?_assemble assembled member (files_content apart _ member)
    fun g other => List.inj_on_of_nodup_map paths other member

end Promotion

/-! ### Differences of moved ontologies -/

namespace Drift

theorem tableDrift_retarget (o : Ontology) (view : View) :
    tableDrift (Model.build o view).tables (Model.build (Promotion.retarget o view) view).tables = [] ↔
      ∀ object, o.objects.reverse.find? (·.name = object.name) = some object →
        Promotion.SamePlace o view object := by
  show matchLast _ _ _ (o.objects.map (Model.tableOf o view))
    (o.objects.map (Model.tableOf (Promotion.retarget o view) view)) _ = [] ↔ _
  have named (p : Ontology) (object : Object) : (Model.tableOf p view object).name = object.name := rfl
  rw [matchLast_map o.objects (named o) (named _)]
  refine forall₂_congr fun object _ => ?_
  rw [← Promotion.base_retarget]
  by_cases same : (Model.tableOf o view object).base =
      (Model.tableOf (Promotion.retarget o view) view object).base
  · simp [same]
  · simp [same]

theorem compareModels_retarget (o : Ontology) (view : View) :
    compareModels (Model.build o view) (Model.build (Promotion.retarget o view) view) =
      tableDrift (Model.build o view).tables (Model.build (Promotion.retarget o view) view).tables := by
  have joins : joinDrift (Model.build o view).relationships
      (Model.build (Promotion.retarget o view) view).relationships = [] := joinDrift_self _
  have facts : factDrift (Model.build o view).facts
      (Model.build (Promotion.retarget o view) view).facts = [] := factDrift_self _
  rw [compareModels, joins, facts, List.append_nil, List.append_nil]

theorem carried_reads {deployed : String} {m : Model} (same : Model.parse deployed = Model.parse m.render) :
    Model.parse deployed = .ok m := by
  rw [same]
  simp only [Model.parse, readShaped_model, ofJson?_model]

/-- A view that is deployed as it was promoted shows no differences just where the objects of the ontology
are in the same place when the ontology is moved. -/
theorem viewDrift_promoted {o : Ontology} {view : View} {live : Provider} {deployed : LiveView}
    (named : Text.allBlank view.name = false)
    (answers : live.view? view.database view.schema view.name = .ok (some deployed))
    (reads : Model.parse deployed.yaml = .ok (Model.build (Promotion.retarget o view) view))
    (threshold : Nat) : viewDrift o live view threshold = .ok [] ↔
      ∀ object, o.objects.reverse.find? (·.name = object.name) = some object →
        Promotion.SamePlace o view object := by
  have compiles : Compile.forView o view none = .ok ⟨view, .build o view, (Model.build o view).render,
      Sql.verifyScript view (Model.build o view).render none,
      Sql.deployScript view (Model.build o view).render none⟩ := Compile.forView_ok.mpr ⟨named, rfl⟩
  simp only [viewDrift, compiles, answers, Except.ok.injEq]
  rw [definitionDrift_eq_nil_iff reads, compareModels_retarget, tableDrift_retarget]

/-- The script that deploys to an environment carries a definition; and where that is deployed, no
differences are found, whatever the threshold, just where the mapping puts no object in another place
than that of the environment. Of objects with the same name, the last one counts. -/
theorem promoted_unchanged_iff (o : Ontology) (environments : List Environment)
    (provider : Option Provider) (options : PromotionOptions) (b : Bundle) (name : String) (view : View)
    (distinct : (environments.map Prod.fst).Nodup)
    (built : Promotion.bundle o environments provider options = .ok b)
    (listed : (name, view) ∈ environments) :
    ∃ yaml script, b.file? s!"{name}/{Compile.deployPath}" =
        some ⟨s!"{name}/{Compile.deployPath}", script⟩ ∧
      Sql.Carries script (Sql.deployHeading view options.version) (.creating view yaml false) ∧
      ∀ (live : Provider) (deployed : LiveView),
        live.view? view.database view.schema view.name = .ok (some deployed) →
        Model.parse deployed.yaml = Model.parse yaml →
        ∀ threshold, viewDrift o live view threshold = .ok [] ↔
          ∀ object, o.objects.reverse.find? (·.name = object.name) = some object →
            Promotion.SamePlace o view object := by
  have named := (Promotion.bundle_ok built).1 _ listed
  refine ⟨_, _, Promotion.deploy_found distinct built listed, Sql.deploy_carries _ _ _, ?_⟩
  intro live deployed answers same threshold
  exact viewDrift_promoted named answers (carried_reads same) threshold

def developedOrder : Object :=
  ⟨"Order", "", ["id"], [⟨"id", .integer, "", false, true⟩], none, none, none⟩

/-- Orders that are stored where they are developed. -/
def developedOrders : Ontology where
  version := "1"
  name := "sales"
  description := ""
  objects := [developedOrder]
  relationships := []
  metrics := [⟨"volume", "COUNT(*)", ["Order"], .count, none, ""⟩]
  dimensions := []
  mapping := some ⟨"DEV_DB", "PUBLIC", none, []⟩

def developmentView : View := ⟨"DEV_DB", "PUBLIC", "orders"⟩

def productionView : View := ⟨"PROD_DB", "PUBLIC", "orders"⟩

def orderEnvironments : List Environment := [("dev", developmentView), ("prod", productionView)]

theorem orders_promoted :
    ∃ b, Promotion.bundle developedOrders orderEnvironments none ⟨some 1, ⟨0⟩⟩ = .ok b :=
  Promotion.bundle_isOk (by decide) (by decide)

theorem deployed_answer (view : View) (yaml : String) :
    (Catalog.empty.addView view.database view.schema view.name yaml).provider.view? view.database
      view.schema view.name = .ok (some ⟨view.name, yaml⟩) := by
  simp [Catalog.provider, Catalog.addView, Catalog.empty, Catalog.answer, Keyed.insert, Keyed.get?]

theorem developed_orders_unchanged : ∃ b yaml script,
    (orderEnvironments.map Prod.fst).Nodup ∧
    Promotion.bundle developedOrders orderEnvironments none ⟨some 1, ⟨0⟩⟩ = .ok b ∧
    b.file? s!"dev/{Compile.deployPath}" = some ⟨s!"dev/{Compile.deployPath}", script⟩ ∧
    Sql.Carries script (Sql.deployHeading developmentView (some 1)) (.creating developmentView yaml false) ∧
    viewDrift developedOrders (Catalog.empty.addView "DEV_DB" "PUBLIC" "orders" yaml).provider
      developmentView 0 = .ok [] := by
  obtain ⟨b, built⟩ := orders_promoted
  obtain ⟨yaml, script, found, carries, unchanged⟩ := promoted_unchanged_iff developedOrders
    orderEnvironments none ⟨some 1, ⟨0⟩⟩ b "dev" developmentView (by decide) built (by decide)
  refine ⟨b, yaml, script, by decide, built, found, carries, ?_⟩
  refine (unchanged _ _ (deployed_answer developmentView yaml) rfl 0).mpr fun object _ => ?_
  constructor <;>
  · intro _ m mapped
    cases mapped
    exact .inr rfl

/-- Where an ontology is not stored in the place of an environment, the search for differences takes its
promotion for an edit. -/
theorem promoted_orders_reported : ∃ b yaml script,
    Promotion.bundle developedOrders orderEnvironments none ⟨some 1, ⟨0⟩⟩ = .ok b ∧
    b.file? s!"prod/{Compile.deployPath}" = some ⟨s!"prod/{Compile.deployPath}", script⟩ ∧
    Sql.Carries script (Sql.deployHeading productionView (some 1)) (.creating productionView yaml false) ∧
    viewDrift developedOrders (Catalog.empty.addView "PROD_DB" "PUBLIC" "orders" yaml).provider
      productionView 5 ≠ .ok [] := by
  obtain ⟨b, built⟩ := orders_promoted
  have listed : ("prod", productionView) ∈ orderEnvironments := by decide
  refine ⟨b, _, _, built, Promotion.deploy_found (by decide) built listed, Sql.deploy_carries _ _ _, ?_⟩
  intro unchanged
  have same := (viewDrift_promoted (by decide) (deployed_answer productionView _) (carried_reads rfl)
    5).mp unchanged
  obtain empty | equal := (same developedOrder (by decide)).1 rfl _ rfl
  · exact absurd empty (by decide)
  · exact absurd equal (by decide)

end Drift
end SemanticLayer
