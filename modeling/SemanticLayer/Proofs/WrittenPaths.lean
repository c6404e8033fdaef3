import SemanticLayer.Bundle.Write
import SemanticLayer.Proofs.JsonPointer
import SemanticLayer.Proofs.PromotionContents

/-! Where the files of a promotion are written. A path is put below a directory by joining the two, which keeps
it there only if it is not absolute and does not lead upwards; an absolute path takes the place of the directory.
The paths of a promotion start with the names of its environments, which nothing keeps from being such names.
Main statement: `written_below_iff`. -/
namespace SemanticLayer

/-! ### Paths below a directory -/

namespace Path
variable {dir path name file : String}

/-- A path that leads from a directory to something inside of it. -/
structure Inner (path : String) : Prop where
  relative : isAbsolute path = false
  stays : ".." ∉ components path

/-- A path lies below a directory if it goes on from there and never upwards. -/
structure LiesBelow (dir path : String) : Prop where
  start : isAbsolute path = isAbsolute dir
  further : ∃ rest, rest ≠ [] ∧ ".." ∉ rest ∧ components path = components dir ++ rest

theorem components_slash (left right : String) :
    components (left ++ "/" ++ right) = components left ++ components right := by
  have slash : "/".toList = ['/'] := rfl
  simp only [components, parts, String.toList_append, slash, List.append_assoc, List.singleton_append,
    Text.splitAtChar_both, List.map_append, List.filter_append]

@[simp] theorem components_empty : components "" = [] := by decide

theorem join_absolute (absolute : isAbsolute path = true) (dir : String) : join dir path = path := by
  simp [join, absolute]

theorem join_empty (path : String) : join "" path = path := by
  simp [join]

theorem isAbsolute_append (here : dir ≠ "") (more : String) : isAbsolute (dir ++ more) = isAbsolute dir := by
  have some : dir.toList ≠ [] := by simpa using here
  simp only [isAbsolute, String.toList_append, List.head?_append_of_ne_nil _ some]

/-- Joining puts a slash between a directory and a path unless there is one. -/
theorem join_cases (relative : isAbsolute path = false) (here : dir ≠ "") :
    (∃ start, dir = start ++ "/" ∧ join dir path = start ++ "/" ++ path) ∨
      join dir path = dir ++ "/" ++ path := by
  have notEmpty : dir.isEmpty = false := by simpa using here
  simp only [join, relative, notEmpty, Bool.or_self, Bool.false_eq_true, if_false]
  split
  · rename_i slash
    obtain ⟨start, split⟩ := List.getLast?_eq_some_iff.mp slash
    have same : dir = String.ofList start ++ "/" := by
      apply String.toList_inj.mp
      simpa [String.toList_append] using split
    exact .inl ⟨_, same, by rw [← same]⟩
  · exact .inr rfl

theorem components_join (relative : isAbsolute path = false) (dir : String) :
    components (join dir path) = components dir ++ components path := by
  rcases eq_or_ne dir "" with rfl | here
  · rw [join_empty, components_empty, List.nil_append]
  · rcases join_cases relative here with ⟨start, rfl, joined⟩ | joined
    · have ends : components (start ++ "/") = components start := by
        simpa using components_slash start ""
      rw [joined, components_slash, ends]
    · rw [joined, components_slash]

theorem isAbsolute_join (relative : isAbsolute path = false) (dir : String) :
    isAbsolute (join dir path) = isAbsolute dir := by
  rcases eq_or_ne dir "" with rfl | here
  · rw [join_empty, relative]
    rfl
  · rcases join_cases relative here with ⟨start, same, joined⟩ | joined
    · rw [joined, ← same, isAbsolute_append here]
    · rw [joined, String.append_assoc, isAbsolute_append here]

/-- A relative path leads below a directory if it leads anywhere and never upwards. -/
theorem below_join_iff (relative : isAbsolute path = false) (dir : String) :
    LiesBelow dir (join dir path) ↔ components path ≠ [] ∧ ".." ∉ components path := by
  constructor
  · rintro ⟨_, rest, any, stays, here⟩
    rw [components_join relative] at here
    obtain rfl := List.append_cancel_left here
    exact ⟨any, stays⟩
  · rintro ⟨any, stays⟩
    exact ⟨isAbsolute_join relative dir, _, any, stays, components_join relative dir⟩

/-- What is inside of every directory is what leads to the inside of a directory. -/
theorem below_iff (named : components path ≠ []) : (∀ dir, LiesBelow dir (join dir path)) ↔ Inner path := by
  constructor
  · intro below
    have start := (below "").start
    rw [join_empty] at start
    exact ⟨start, ((below_join_iff start "").mp (below "")).2⟩
  · rintro ⟨relative, stays⟩ dir
    exact (below_join_iff relative dir).mpr ⟨named, stays⟩

/-- A name of a directory that is inside of every directory. -/
structure FolderName (name : String) : Prop extends Inner name where
  named : name ≠ ""

/-- A file leads to the inside of a directory if the directory that it is in has a name that does. -/
theorem inner_iff (whole : components file = [file]) (plain : file ≠ "..") :
    Inner (name ++ "/" ++ file) ↔ FolderName name := by
  have stays : ".." ∉ components (name ++ "/" ++ file) ↔ ".." ∉ components name := by
    simp [components_slash, whole, plain.symm]
  rcases eq_or_ne name "" with rfl | named
  · -- Then the path starts with the slash.
    have absolute : isAbsolute ("" ++ "/" ++ file) = true := by
      simp [isAbsolute, String.toList_append]
    constructor
    · intro inner
      exact nomatch absolute.symm.trans inner.relative
    · intro folder
      exact absurd rfl folder.named
  · have start : isAbsolute (name ++ "/" ++ file) = isAbsolute name := by
      rw [String.append_assoc, isAbsolute_append named]
    constructor
    · rintro ⟨relative, inside⟩
      exact ⟨⟨start ▸ relative, stays.mp inside⟩, named⟩
    · rintro ⟨⟨relative, inside⟩, _⟩
      exact ⟨start ▸ relative, stays.mpr inside⟩

end Path

/-! ### Writing a bundle -/

namespace Bundle

/-- Artifacts are written below a directory, one after the other, which makes one tree into another one. -/
inductive Writes (dir : String) : FileTree → List Artifact → FileTree → Prop
  | nil (files : FileTree) : Writes dir files [] files
  | cons {files next after : FileTree} {artifact : Artifact} {rest : List Artifact}
      (first : writeFile files (Path.join dir artifact.path) (.text artifact.content) = .ok next)
      (later : Writes dir next rest after) : Writes dir files (artifact :: rest) after

variable {dir : String} {artifact : Artifact} {rest : List Artifact} {files next : FileTree}

-- How a file is written does not matter here, and opening it costs.
attribute [local irreducible] writeFile

theorem writeAll_cons : writeAll dir (artifact :: rest) files =
    match writeFile files (Path.join dir artifact.path) (.text artifact.content) with
    | .error e => (files, .error e)
    | .ok files => ((writeAll dir rest files).1,
      (writeAll dir rest files).2.map (Path.join dir artifact.path :: ·)) := rfl

theorem writeAll_ok (step : writeFile files (Path.join dir artifact.path) (.text artifact.content) = .ok next) :
    writeAll dir (artifact :: rest) files = ((writeAll dir rest next).1,
      (writeAll dir rest next).2.map (Path.join dir artifact.path :: ·)) := by
  rw [writeAll_cons, step]

theorem writeAll_error {e : WriteError}
    (step : writeFile files (Path.join dir artifact.path) (.text artifact.content) = .error e) :
    writeAll dir (artifact :: rest) files = (files, .error e) := by
  rw [writeAll_cons, step]

/-- Writing below a directory writes artifacts from the first one on, each at its path below the directory: all
of them unless it fails. -/
theorem writeAll_writes (dir : String) (artifacts : List Artifact) (files : FileTree) :
    ∃ written, written <+: artifacts ∧ Writes dir files written (writeAll dir artifacts files).1 ∧
      ∀ paths, (writeAll dir artifacts files).2 = .ok paths →
        written = artifacts ∧ paths = artifacts.map (Path.join dir ·.path) := by
  induction artifacts generalizing files with
  | nil =>
    refine ⟨[], List.prefix_rfl, .nil files, fun paths ok => ?_⟩
    cases ok
    exact ⟨rfl, rfl⟩
  | cons artifact rest ih =>
    cases step : writeFile files (Path.join dir artifact.path) (.text artifact.content) with
    | error e =>
      rw [writeAll_error step]
      exact ⟨[], List.nil_prefix, .nil files, nofun⟩
    | ok next =>
      rw [writeAll_ok step]
      obtain ⟨written, start, run, all⟩ := ih next
      refine ⟨artifact :: written, List.cons_prefix_cons.mpr ⟨rfl, start⟩, .cons step run, ?_⟩
      intro paths ok
      cases result : (writeAll dir rest next).2 with
      | error e =>
        rw [result] at ok
        cases ok
      | ok later =>
        obtain ⟨rfl, rfl⟩ := all later result
        rw [result] at ok
        cases ok
        exact ⟨rfl, rfl⟩

end Bundle

/-! ### Writing a promotion -/

namespace Promotion
variable {o : Ontology} {environments order : List Environment} {provider : Option Provider}
  {options : PromotionOptions} {version : Option Int} {e : Environment} {f : Artifact} {b : Bundle}

theorem stageFiles_components :
    ∀ file ∈ stageFiles, Path.components file = [file] ∧ file ≠ ".." := by decide

theorem topPaths_inner : ∀ path ∈ topPaths, Path.isAbsolute path = false ∧
    Path.components path ≠ [] ∧ ".." ∉ Path.components path := by decide

/-- A file of a promotion is at the top or below the directory of an environment. -/
theorem PromotionFile.path_cases {metadata : Metadata}
    (file : PromotionFile o provider version order metadata f) :
    f.path ∈ topPaths ∨ ∃ e ∈ order, ∃ name ∈ stageFiles, f.path = e.1 ++ "/" ++ name := by
  refine file.top_or_environment.imp_right ?_
  rintro ⟨e, listed, file⟩
  obtain ⟨name, known, path, _⟩ := file.path
  exact ⟨e, listed, name, known, path⟩

theorem PromotionFile.components_ne_nil {metadata : Metadata}
    (file : PromotionFile o provider version order metadata f) : Path.components f.path ≠ [] := by
  rcases file.path_cases with top | ⟨e, _, name, known, path⟩
  · exact (topPaths_inner _ top).2.1
  · simp [path, Path.components_slash, (stageFiles_components name known).1]

/-- The files of a promotion lead to the inside of a directory if the names of its environments do. -/
theorem files_inner_iff (distinct : (environments.map Prod.fst).Nodup)
    (built : bundle o environments provider options = .ok b) :
    (∀ f ∈ b.files, Path.Inner f.path) ↔ ∀ e ∈ environments, Path.FolderName e.1 := by
  have files := (bundle_files distinct built).2
  constructor
  · intro inner e listed
    have verify := (files _).mpr (.environment ((ordered_perm environments).mem_iff.mpr listed) .verify)
    exact (Path.inner_iff (by decide) (by decide)).mp (inner _ verify)
  · intro folders f member
    rcases ((files f).mp member).path_cases with top | ⟨e, listed, name, known, path⟩
    · obtain ⟨relative, _, stays⟩ := topPaths_inner _ top
      exact ⟨relative, stays⟩
    · obtain ⟨whole, plain⟩ := stageFiles_components name known
      rw [path, Path.inner_iff whole plain]
      exact folders e ((ordered_perm environments).mem_iff.mp listed)

/-- A promotion is written below whatever directory is chosen exactly if the name of each environment is one of a
directory: not empty, not absolute, and without a step upwards. That is so just if all its paths are relative
and without such steps. Writing it writes its files from the first one on, each at its path joined to the
directory, and all of them unless it fails. -/
theorem written_below_iff (o : Ontology) (environments : List Environment) (provider : Option Provider)
    (options : PromotionOptions) (b : Bundle) (distinct : (environments.map Prod.fst).Nodup)
    (built : bundle o environments provider options = .ok b) :
    ((∀ f ∈ b.files, Path.Inner f.path) ↔ ∀ e ∈ environments, Path.FolderName e.1) ∧
    ((∀ dir, ∀ f ∈ b.files, Path.LiesBelow dir (Path.join dir f.path)) ↔
      ∀ e ∈ environments, Path.FolderName e.1) ∧
    ∀ dir tree, ∃ written, written <+: b.files ∧
      Bundle.Writes dir tree written (b.writeToDir dir tree).1 ∧
      ∀ paths, (b.writeToDir dir tree).2 = .ok paths →
        written = b.files ∧ paths = b.files.map (Path.join dir ·.path) := by
  have inner := files_inner_iff distinct built
  refine ⟨inner, ?_, fun dir tree => Bundle.writeAll_writes dir b.files tree⟩
  rw [← inner]
  have below (f : Artifact) (member : f ∈ b.files) :
      (∀ dir, Path.LiesBelow dir (Path.join dir f.path)) ↔ Path.Inner f.path :=
    Path.below_iff (((bundle_files distinct built).2 f).mp member).components_ne_nil
  exact ⟨fun all f member => (below f member).mp fun dir => all dir f member,
    fun all dir f member => (below f member).mpr (all f member) dir⟩

theorem orders_written_below : ∃ b, (Drift.orderEnvironments.map Prod.fst).Nodup ∧
    bundle Drift.developedOrders Drift.orderEnvironments none ⟨some 1, ⟨0⟩⟩ = .ok b ∧
    ∀ dir, ∀ f ∈ b.files, Path.LiesBelow dir (Path.join dir f.path) := by
  obtain ⟨b, built⟩ := Drift.orders_promoted
  obtain ⟨_, below, _⟩ := written_below_iff Drift.developedOrders Drift.orderEnvironments none
    ⟨some 1, ⟨0⟩⟩ b (by decide) built
  refine ⟨b, by decide, built, below.mpr ?_⟩
  have folders : ∀ e ∈ Drift.orderEnvironments,
      Path.isAbsolute e.1 = false ∧ ".." ∉ Path.components e.1 ∧ e.1 ≠ "" := by decide
  intro e listed
  obtain ⟨relative, stays, named⟩ := folders e listed
  exact ⟨⟨relative, stays⟩, named⟩

/-- Environments with names that are no names of directories. -/
def strayEnvironments : List Environment :=
  [("", Drift.developmentView), ("..", Drift.productionView)]

/-- A promotion to an environment without a name is written to the root of all files, whatever directory is
chosen, and one to an environment of two points has a file that is below no directory that is chosen. -/
theorem stray_orders_written : ∃ b,
    bundle Drift.developedOrders strayEnvironments none ⟨some 1, ⟨0⟩⟩ = .ok b ∧
    (∃ f ∈ b.files, Path.isAbsolute f.path = true ∧ ∀ dir, Path.join dir f.path = "/verify.sql") ∧
    (∀ dir tree paths, (b.writeToDir dir tree).2 = .ok paths → "/verify.sql" ∈ paths) ∧
    ∃ f ∈ b.files, ∀ dir, ¬ Path.LiesBelow dir (Path.join dir f.path) := by
  obtain ⟨b, built⟩ := @bundle_isOk Drift.developedOrders strayEnvironments none ⟨some 1, ⟨0⟩⟩
    (by decide) (by decide)
  have file {e : Environment} (listed : e ∈ strayEnvironments) :=
    ((bundle_files (by decide) built).2 _).mpr
      (.environment ((ordered_perm strayEnvironments).mem_iff.mpr listed) .verify)
  have root := file List.mem_cons_self
  refine ⟨b, built, ⟨_, root, by decide, Path.join_absolute (by decide)⟩, ?_,
    ⟨_, file (List.mem_cons_of_mem _ List.mem_cons_self), ?_⟩⟩
  · intro dir tree paths ok
    obtain ⟨written, _, _, all⟩ := Bundle.writeAll_writes dir b.files tree
    rw [(all paths ok).2]
    exact List.mem_map.mpr ⟨_, root, Path.join_absolute (by decide) dir⟩
  · intro dir below
    exact ((Path.below_join_iff (by decide) dir).mp below).2 (by decide)

end Promotion
end SemanticLayer
