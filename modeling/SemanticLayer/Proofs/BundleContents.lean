import Mathlib
import SemanticLayer.Compile.Basic

/-! What an assembled bundle holds: the given files and the metadata, and nothing else
(`assemble_ok`), so that a file is found under its path (`file?_assemble`). -/
namespace SemanticLayer

/-- There is one way to cut a text at the first of a character. -/
theorem cut_first {c : Char} {front front' behind behind' : List Char} (plain : c ∉ front)
    (plainToo : c ∉ front') (same : front ++ c :: behind = front' ++ c :: behind') :
    front = front' ∧ behind = behind' := by
  have length : front.length = front'.length := by
    have first := congrArg (List.idxOf c) same
    simpa [List.idxOf_append_of_notMem, plain, plainToo] using first
  obtain ⟨sameFront, rest⟩ := List.append_inj same length
  exact ⟨sameFront, (List.cons.inj rest).2⟩

namespace Artifact

theorem byPath_perm (files : List Artifact) : (byPath files).Perm files := List.mergeSort_perm _ _

end Artifact

namespace Bundle
variable {name target : String} {files : List Artifact} {version : Option Int} {time : Instant}
  {b : Bundle}

/-- A bundle of the content of files, with its metadata in one more file. -/
def made (name : String) (files : List Artifact) (target : String) (version : Option Int) (time : Instant) :
    Bundle :=
  let content := files.filter Artifact.isContent
  let metadata : Metadata := ⟨target, time.text, version, checksum content⟩
  ⟨name, Artifact.byPath (Artifact.byPath content ++ [⟨Artifact.metadataPath, metadata.render⟩]), metadata⟩

theorem assemble_eq : assemble name files target version time =
    if Artifact.instructionsPath ∈ files.map Artifact.path then
      if Artifact.rollbackPath ∈ files.map Artifact.path then .ok (made name files target version time)
      else .error Artifact.rollbackPath
    else .error Artifact.instructionsPath := by
  have named (path : String) : files.any (·.path = path) = decide (path ∈ files.map Artifact.path) := by
    rw [Bool.eq_iff_iff, List.any_eq_true, decide_eq_true_iff, List.mem_map]
    simp only [decide_eq_true_eq]
  unfold assemble made
  simp only [named, List.find?_cons]
  by_cases instructions : Artifact.instructionsPath ∈ files.map Artifact.path
  · by_cases rollback : Artifact.rollbackPath ∈ files.map Artifact.path
    · simp only [instructions, rollback, decide_true, Bool.not_true, List.find?_nil, if_true]
    · simp only [instructions, rollback, decide_true, decide_false, Bool.not_true, Bool.not_false, if_true,
        if_false]
  · simp only [instructions, decide_false, Bool.not_false, if_false]

theorem eq_made_of_assemble (assembled : assemble name files target version time = .ok b) :
    b = made name files target version time := by
  rw [assemble_eq] at assembled
  split at assembled
  · split at assembled
    · exact (Except.ok.inj assembled).symm
    · cases assembled
  · cases assembled

theorem made_perm : (made name files target version time).files.Perm
    (⟨Artifact.metadataPath, (made name files target version time).metadata.render⟩ ::
      files.filter Artifact.isContent) := by
  refine (Artifact.byPath_perm _).trans ?_
  exact (List.perm_append_singleton _ _).trans ((Artifact.byPath_perm _).cons _)

theorem assemble_ok (assembled : assemble name files target version time = .ok b) :
    b.metadata.checksum = checksum (files.filter Artifact.isContent) ∧
    b.files.Perm (⟨Artifact.metadataPath, b.metadata.render⟩ :: files.filter Artifact.isContent) := by
  rw [eq_made_of_assemble assembled]
  exact ⟨rfl, made_perm⟩

/-- Only the metadata is added to what is given. -/
theorem content_assemble (assembled : assemble name files target version time = .ok b) :
    (b.files.filter Artifact.isContent).Perm (files.filter Artifact.isContent) := by
  have added := (assemble_ok assembled).2.filter Artifact.isContent
  rwa [List.filter_cons_of_neg (by simp [Artifact.isContent]), List.filter_filter,
    funext fun f => Bool.and_self (Artifact.isContent f)] at added

theorem assemble_isOk (instructions : Artifact.instructionsPath ∈ files.map (·.path))
    (rollback : Artifact.rollbackPath ∈ files.map (·.path)) :
    ∃ b, assemble name files target version time = .ok b := by
  rw [assemble_eq, if_pos instructions, if_pos rollback]
  exact ⟨_, rfl⟩

/-- The only file of a path is found under it. -/
theorem file?_assemble (assembled : assemble name files target version time = .ok b) {f : Artifact}
    (member : f ∈ files) (content : f.isContent = true)
    (only : ∀ g ∈ files, g.path = f.path → g = f) : b.file? f.path = some f := by
  have perm := (assemble_ok assembled).2
  have listed : f ∈ b.files :=
    perm.mem_iff.mpr (List.mem_cons_of_mem _ (List.mem_filter.mpr ⟨member, content⟩))
  cases found : b.file? f.path with
  | none =>
    have absent := List.find?_eq_none.mp found f listed
    simp at absent
  | some g =>
    have here := List.mem_of_find?_eq_some found
    have path : g.path = f.path := by simpa using List.find?_some found
    rcases List.mem_cons.mp (perm.mem_iff.mp here) with metadata | given
    · rw [metadata] at path
      simp [Artifact.isContent, ← path] at content
    · rw [only g (List.mem_filter.mp given).1 path]

theorem mapError_ok {ε : Type} {wrap : String → ε} {r : Except String Bundle} :
    r.mapError wrap = .ok b ↔ r = .ok b := by
  cases r <;> simp [Except.mapError]

end Bundle

namespace Compile
variable {o : Ontology} {view : View} {version : Option Int} {options : CompileOptions} {c : Compiled}
  {b : Bundle}

theorem forView_ok : forView o view version = .ok c ↔ Text.allBlank view.name = false ∧
    c = ⟨view, .build o view, (Model.build o view).render,
      Sql.verifyScript view (Model.build o view).render version,
      Sql.deployScript view (Model.build o view).render version⟩ := by
  unfold forView
  split
  · rename_i blank
    simp [blank]
  · rename_i named
    simp [named, eq_comm]

theorem forView_isOk (o : Ontology) (version : Option Int) (named : Text.allBlank view.name = false) :
    ∃ c, forView o view version = .ok c :=
  ⟨_, forView_ok.mpr ⟨named, rfl⟩⟩

/-- An ontology that compiles is bundled as its files are assembled. -/
theorem bundle_of_model (compiled : model o options = .ok c) : bundle o options =
    (Bundle.assemble c.view.name (files c options.version) c.view.identifier options.version
      options.time).mapError .missingFile := by
  unfold bundle
  rw [compiled]
  simp only [bind, Except.bind]
  cases Bundle.assemble c.view.name (files c options.version) c.view.identifier options.version options.time <;> rfl

theorem bundle_ok (compiled : bundle o options = .ok b) :
    ∃ view c, resolveView o options = .ok view ∧ forView o view options.version = .ok c ∧
      Bundle.assemble c.view.name (files c options.version) c.view.identifier options.version
        options.time = .ok b := by
  cases built : model o options with
  | error e =>
    rw [bundle, built] at compiled
    cases compiled
  | ok c =>
    rw [bundle_of_model built, Bundle.mapError_ok] at compiled
    unfold model at built
    cases resolved : resolveView o options with
    | error e =>
      rw [resolved] at built
      cases built
    | ok view =>
      rw [resolved] at built
      exact ⟨view, c, rfl, built, compiled⟩

/-- An ontology compiles for every view that has a name. -/
theorem bundle_isOk (resolved : resolveView o options = .ok view)
    (named : Text.allBlank view.name = false) : ∃ b, bundle o options = .ok b := by
  obtain ⟨c, compiled⟩ := forView_isOk o options.version named
  have built : model o options = .ok c := by
    rw [model, resolved]
    exact compiled
  have assembles : ∃ b, Bundle.assemble c.view.name (files c options.version) c.view.identifier options.version
      options.time = .ok b := Bundle.assemble_isOk (by simp [files]) (by simp [files])
  simpa only [bundle_of_model built, Bundle.mapError_ok] using assembles

/-- A file of a compilation is found in its bundle. -/
theorem file?_bundle (assembled : Bundle.assemble c.view.name (files c version) c.view.identifier version
    options.time = .ok b) {f : Artifact} (member : f ∈ files c version) : b.file? f.path = some f := by
  have distinct : ((files c version).map (·.path)).Nodup := by
    show [modelPath, verifyPath, deployPath, Artifact.instructionsPath, Artifact.rollbackPath].Nodup
    decide
  have content : ∀ g ∈ files c version, g.isContent = true := by
    show ∀ g ∈ [_, _, _, _, _], _
    simp [Artifact.isContent, Artifact.metadataPath, modelPath, verifyPath, deployPath,
      Artifact.instructionsPath, Artifact.rollbackPath]
  exact Bundle.file?_assemble assembled member (content f member) fun g other same =>
    List.inj_on_of_nodup_map distinct other member same

/-- The bundle of an ontology has the model of the view and the scripts that carry it. -/
theorem scripts_found (compiled : bundle o options = .ok b) :
    ∃ view, resolveView o options = .ok view ∧
      b.file? modelPath = some ⟨modelPath, (Model.build o view).render⟩ ∧
      b.file? verifyPath = some ⟨verifyPath,
        Sql.verifyScript view (Model.build o view).render options.version⟩ ∧
      b.file? deployPath = some ⟨deployPath,
        Sql.deployScript view (Model.build o view).render options.version⟩ := by
  obtain ⟨view, c, resolved, built, assembled⟩ := bundle_ok compiled
  obtain ⟨_, rfl⟩ := forView_ok.mp built
  have found := fun f => file?_bundle assembled (f := f)
  exact ⟨view, resolved, found _ (.head _), found _ (.tail _ (.head _)),
    found _ (.tail _ (.tail _ (.head _)))⟩

end Compile
end SemanticLayer
