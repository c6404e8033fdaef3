import SemanticLayer.Proofs.AssembledBundle
import SemanticLayer.Proofs.PromotedDeployment

/-! What tells bundles apart: neither the order in which files are given nor the time at which a bundle is made,
which stands in its metadata only. Main statement: `bundle_identity`. -/
namespace SemanticLayer

namespace Artifact
variable {files changed : List Artifact}

theorem map_path_filter_nodup (distinct : (files.map path).Nodup) : ((files.filter isContent).map path).Nodup :=
  distinct.sublist (List.filter_sublist.map path)

/-- Files of distinct paths have one checksum in every order. -/
theorem checksum_of_perm (distinct : (files.map path).Nodup) (perm : changed.Perm files) :
    checksum changed = checksum files :=
  congrArg Digest.hashText (checksumText_of_perm distinct perm)

end Artifact

namespace Bundle
variable {name target : String} {files changed : List Artifact} {version : Option Int} {time : Instant}
  {b : Bundle}

/-- A bundle without the time at which it was made: the metadata has none, and it is not among the files. -/
def undated (b : Bundle) : Bundle :=
  { b with files := b.files.filter Artifact.isContent, metadata := { b.metadata with timestamp := "" } }

/-- What is assembled depends on the content only, in the order of its paths. -/
theorem made_of_perm (distinct : (files.map Artifact.path).Nodup) (perm : changed.Perm files) :
    made name changed target version time = made name files target version time := by
  have content := perm.filter Artifact.isContent
  have apart := Artifact.map_path_filter_nodup distinct
  simp only [made, Artifact.checksum_of_perm apart content, Artifact.byPath_eq_of_perm apart content.symm]

theorem assemble_of_perm (distinct : (files.map Artifact.path).Nodup) (perm : changed.Perm files) :
    assemble name changed target version time = assemble name files target version time := by
  have listed (path : String) : path ∈ changed.map Artifact.path ↔ path ∈ files.map Artifact.path :=
    (perm.map Artifact.path).mem_iff
  simp only [assemble_eq, listed, made_of_perm distinct perm]

/-- A bundle that verifies does so in whatever order its files stand. -/
theorem verify_of_perm (distinct : b.paths.Nodup) (perm : changed.Perm b.files) :
    verify { b with files := changed } = b.verify := by
  have apart : ((b.files.filter Artifact.isContent).map Artifact.path).Nodup :=
    Artifact.map_path_filter_nodup distinct
  unfold verify actualChecksum
  rw [Artifact.checksum_of_perm apart (perm.filter Artifact.isContent)]

theorem undated_made : (made name files target version time).undated =
    ⟨name, Artifact.byPath (files.filter Artifact.isContent),
      ⟨target, "", version, checksum (files.filter Artifact.isContent)⟩⟩ := by
  rw [undated, filter_made]
  rfl

theorem assemble_undated (time other : Instant) :
    (assemble name files target version time).map undated =
      (assemble name files target version other).map undated := by
  simp only [assemble_eq]
  split
  · split
    · exact congrArg Except.ok (undated_made.trans undated_made.symm)
    · rfl
  · rfl

end Bundle

/-- Wrapping the errors keeps what is the same but for the time. -/
theorem Bundle.returned_undated {ε : Type} {wrap : String → ε} {r other : Except String Bundle}
    (same : r.map undated = other.map undated) :
    (r.mapError wrap).map undated = (other.mapError wrap).map undated := by
  cases r <;> cases other <;> simp_all [Except.map, Except.mapError]

namespace Compile
variable {o : Ontology} {options : CompileOptions}

theorem bundle_undated (time other : Instant) :
    (bundle o { options with time := time }).map Bundle.undated =
      (bundle o { options with time := other }).map Bundle.undated := by
  -- The time is used for the bundle only.
  have timeless (t : Instant) : model o { options with time := t } = model o options := rfl
  cases compiled : model o options with
  | error e =>
    have failed (t : Instant) : bundle o { options with time := t } = .error e := by
      rw [bundle, timeless, compiled]
      rfl
    rw [failed, failed]
  | ok c =>
    have built (t : Instant) := bundle_of_model ((timeless t).trans compiled)
    rw [built, built]
    exact Bundle.returned_undated (Bundle.assemble_undated time other)

end Compile

namespace Promotion
variable {o : Ontology} {environments : List Environment} {provider : Option Provider} {options : PromotionOptions}

theorem bundle_undated (time other : Instant) :
    (bundle o environments provider { options with time := time }).map Bundle.undated =
      (bundle o environments provider { options with time := other }).map Bundle.undated := by
  cases staged : (ordered environments).mapM (stage o provider options.version) with
  | error e =>
    have failed (t : Instant) : bundle o environments provider { options with time := t } = .error e := by
      rw [bundle, staged]
      rfl
    rw [failed, failed]
  | ok stages =>
    cases stages with
    | nil =>
      have failed (t : Instant) :
          bundle o environments provider { options with time := t } = .error .noEnvironments := by
        rw [bundle, staged]
        rfl
      rw [failed, failed]
    | cons first rest =>
      have built (t : Instant) := @bundle_of_stages o environments provider { options with time := t } first rest staged
      rw [built, built]
      exact Bundle.returned_undated (Bundle.assemble_undated time other)

end Promotion

/-- The order in which files are given and the time at which a bundle is made leave no mark on it, but for its
metadata: files of distinct paths have one checksum and one bundle in every order, what is assembled, compiled or
promoted is the same at all times without its times, and an assembled bundle verifies in every order of its files. -/
theorem bundle_identity :
    (∀ files changed : List Artifact, (files.map Artifact.path).Nodup → changed.Perm files →
      checksum changed = checksum files ∧
      ∀ (name target : String) (version : Option Int) (time : Instant),
        Bundle.assemble name changed target version time = Bundle.assemble name files target version time) ∧
    (∀ time other : Instant,
      (∀ (name : String) (files : List Artifact) (target : String) (version : Option Int),
        (Bundle.assemble name files target version time).map Bundle.undated =
          (Bundle.assemble name files target version other).map Bundle.undated) ∧
      (∀ (o : Ontology) (options : CompileOptions),
        (Compile.bundle o { options with time := time }).map Bundle.undated =
          (Compile.bundle o { options with time := other }).map Bundle.undated) ∧
      (∀ (o : Ontology) (environments : List Environment) (provider : Option Provider) (options : PromotionOptions),
        (Promotion.bundle o environments provider { options with time := time }).map Bundle.undated =
          (Promotion.bundle o environments provider { options with time := other }).map Bundle.undated)) ∧
    (∀ (name : String) (files changed : List Artifact) (target : String) (version : Option Int) (time : Instant)
      (b : Bundle), Bundle.assemble name files target version time = .ok b → b.paths.Nodup →
      changed.Perm b.files → Bundle.verify { b with files := changed } = true) := by
  refine ⟨fun files changed distinct perm => ?_, fun time other => ?_, ?_⟩
  · exact ⟨Artifact.checksum_of_perm distinct perm, fun _ _ _ _ => Bundle.assemble_of_perm distinct perm⟩
  · exact ⟨fun _ _ _ _ => Bundle.assemble_undated time other, fun _ _ => Compile.bundle_undated time other,
      fun _ _ _ _ => Promotion.bundle_undated time other⟩
  · intro name files changed target version time b assembled distinct perm
    rw [Bundle.verify_of_perm distinct perm, Bundle.eq_made_of_assemble assembled]
    exact Bundle.verify_made

theorem two_files_identity :
    checksum twoFiles.reverse = checksum twoFiles ∧
    ∃ b, Bundle.assemble "orders" twoFiles "snowflake:DB.PUBLIC.orders" none ⟨0⟩ = .ok b ∧
      Bundle.assemble "orders" twoFiles.reverse "snowflake:DB.PUBLIC.orders" none ⟨0⟩ = .ok b ∧
      Bundle.verify { b with files := b.files.reverse } = true := by
  obtain ⟨orders, _, verified⟩ := bundle_identity
  obtain ⟨b, assembled⟩ := two_files_assemble
  obtain ⟨same, bundles⟩ := orders twoFiles twoFiles.reverse (by decide) twoFiles.reverse_perm
  have distinct : b.paths.Nodup :=
    ((Bundle.assemble_ok assembled).2.map Artifact.path).nodup_iff.mpr (by
      show (Artifact.metadataPath :: (twoFiles.filter Artifact.isContent).map Artifact.path).Nodup
      decide)
  exact ⟨same, b, assembled, (bundles _ _ _ _).trans assembled,
    verified _ _ _ _ _ _ b assembled distinct b.files.reverse_perm⟩

end SemanticLayer
