import SemanticLayer.Proofs.BundleChecksum
import SemanticLayer.Proofs.RecordText

/-! An assembled bundle, whatever files it is made of; paths may stand twice and there may be metadata among the
files. Sorting keeps the order of files that have one path, so what is hashed when the bundle is verified is what
was hashed when it was assembled, and the metadata is read back from its file. Main statement:
`assembled_consistent`. -/
namespace SemanticLayer

/-! ### The text of metadata -/

namespace Metadata

/-- The metadata that a text holds. -/
def parse? (text : String) : Option Metadata := (Json.read text).toOption.bind ofJson?

/-- The version is a signed integer of 64 bits. -/
def VersionFits (version : Option Int) : Prop := ∀ n ∈ version, -(2 ^ 63) ≤ n ∧ n < 2 ^ 63

theorem parse?_render (m : Metadata) (fits : VersionFits m.version) : parse? m.render = some m := by
  obtain ⟨target, timestamp, version, checksum⟩ := m
  have versionScalar : (Json.ofInt? version).Scalar := by
    cases version with
    | none => exact .null
    | some n =>
      have range := fits n rfl
      exact .int range.1 (by omega)
  have read := Json.read_pretty_record [("target", .str target), ("timestamp", .str timestamp),
    ("version_id", Json.ofInt? version), ("checksum", .str checksum)] ['\n']
    (by simp [Json.Scalar.str, versionScalar]) (List.forall_mem_singleton.mpr rfl)
  have versionRead : Json.orNull Json.signed? (Json.ofInt? version) = some version := by
    cases version with
    | none => rfl
    | some n =>
      have range := fits n rfl
      have inRange : -(Nat.pow 2 63 : Int) ≤ n ∧ n < Nat.pow 2 63 := range
      simp only [Json.ofInt?, Json.orNull, Json.signed?, if_pos inRange]
      rfl
  have text : render ⟨target, timestamp, version, checksum⟩ =
      (Json.obj [("target", .str target), ("timestamp", .str timestamp), ("version_id", Json.ofInt? version),
        ("checksum", .str checksum)]).pretty ++ String.ofList ['\n'] := rfl
  rw [parse?, text, read]
  simp [Except.toOption, ofJson?, Json.object, Json.Record.of?, Json.Record.required, Json.Record.optional,
    Keyed.ofList, Keyed.get?_insert, Json.str?, versionRead]

end Metadata

/-! ### Files in the order of their paths -/

namespace Artifact
variable {content : List Artifact} {f : Artifact}

theorem byPath_of_sorted (sorted : content.Pairwise fun a b => a.path ≤ b.path) : byPath content = content :=
  List.mergeSort_of_pairwise (sorted.imp textLe_iff.mpr)

theorem byPath_byPath (content : List Artifact) : byPath (byPath content) = byPath content :=
  byPath_of_sorted (byPath_sorted content)

/-- A file that is put among sorted ones leaves them in their order. -/
theorem sublist_byPath (sorted : content.Pairwise fun a b => a.path ≤ b.path) :
    content.Sublist (byPath (content ++ [f])) :=
  @List.sublist_mergeSort Artifact (fun a b => textLe a.path b.path) _ (fun _ _ _ => textLe_trans)
    (fun a b => textLe_total a.path b.path) _ (sorted.imp textLe_iff.mpr) (List.sublist_append_left content [f])

theorem filter_byPath (all : ∀ g ∈ content, g.isContent = true) (other : f.isContent = false) :
    (byPath (byPath content ++ [f])).filter isContent = byPath content := by
  have kept : (byPath content).filter isContent = byPath content :=
    List.filter_eq_self.mpr fun g member => all g ((byPath_perm content).mem_iff.mp member)
  have inside := (sublist_byPath (f := f) (byPath_sorted content)).filter isContent
  rw [kept] at inside
  have perm := (byPath_perm (byPath content ++ [f])).filter isContent
  refine (inside.eq_of_length ?_).symm
  rw [perm.length_eq, List.filter_append, kept]
  simp [other]

end Artifact

/-! ### What is assembled -/

/-- The file is missing, and every bundle must have it; the instructions are looked for first. -/
def FirstMissing (files : List Artifact) (path : String) : Prop :=
  path ∉ files.map Artifact.path ∧ (path = Artifact.instructionsPath ∨
    path = Artifact.rollbackPath ∧ Artifact.instructionsPath ∈ files.map Artifact.path)

namespace Bundle

/-- A bundle says of its files what is true of them, and they are those that are given. -/
structure Consistent (b : Bundle) (files : List Artifact) : Prop where
  sorted : b.files.Pairwise fun f g => f.path ≤ g.path
  /-- The metadata stands in one file, from which it can be read. -/
  described : ∃ text, Metadata.parse? text = some b.metadata ∧
    b.files.filter (!·.isContent) = [⟨Artifact.metadataPath, text⟩]
  given : (b.files.filter Artifact.isContent).Perm (files.filter Artifact.isContent)
  verified : b.verify = true

variable {name target : String} {files : List Artifact} {version : Option Int} {time : Instant}
  {b : Bundle} {path : String}

theorem assemble_error_iff :
    assemble name files target version time = .error path ↔ FirstMissing files path := by
  rw [assemble_eq, FirstMissing]
  split
  · rename_i instructions
    split
    · rename_i rollback
      constructor
      · rintro ⟨⟩
      · rintro ⟨absent, rfl | ⟨rfl, -⟩⟩
        · exact absurd instructions absent
        · exact absurd rollback absent
    · rename_i rollback
      constructor
      · rintro ⟨⟩
        exact ⟨rollback, .inr ⟨rfl, instructions⟩⟩
      · rintro ⟨absent, rfl | ⟨rfl, -⟩⟩
        · exact absurd instructions absent
        · rfl
  · rename_i instructions
    constructor
    · rintro ⟨⟩
      exact ⟨instructions, .inl rfl⟩
    · rintro ⟨-, rfl | ⟨-, listed⟩⟩
      · rfl
      · exact absurd listed instructions

theorem firstMissing_exists : (∃ path, FirstMissing files path) ↔
    Artifact.instructionsPath ∉ files.map Artifact.path ∨ Artifact.rollbackPath ∉ files.map Artifact.path := by
  constructor
  · rintro ⟨path, absent, rfl | ⟨rfl, -⟩⟩
    · exact .inl absent
    · exact .inr absent
  · by_cases instructions : Artifact.instructionsPath ∈ files.map Artifact.path
    · intro missing
      exact ⟨_, missing.resolve_left (not_not_intro instructions), .inr ⟨rfl, instructions⟩⟩
    · intro
      exact ⟨_, instructions, .inl rfl⟩

/-- The content is hashed again in the order in which it was hashed. -/
theorem filter_made : (made name files target version time).files.filter Artifact.isContent =
    Artifact.byPath (files.filter Artifact.isContent) :=
  Artifact.filter_byPath (fun _ member => (List.mem_filter.mp member).2) rfl

theorem verify_made : (made name files target version time).verify = true := by
  rw [verify, beq_iff_eq, actualChecksum, filter_made, checksum, checksumText, Artifact.byPath_byPath]
  rfl

theorem filter_not_made : (made name files target version time).files.filter (!·.isContent) =
    [⟨Artifact.metadataPath, (made name files target version time).metadata.render⟩] := by
  have kept := (@made_perm name target files version time).filter (!·.isContent)
  have none : (files.filter Artifact.isContent).filter (!·.isContent) = [] :=
    List.filter_eq_nil_iff.mpr fun f member => by simp [(List.mem_filter.mp member).2]
  rw [List.filter_cons_of_pos rfl, none] at kept
  exact List.perm_singleton.mp kept

theorem made_consistent (fits : Metadata.VersionFits version) :
    (made name files target version time).Consistent files where
  sorted := Artifact.byPath_sorted _
  described := ⟨_, Metadata.parse?_render _ fits, filter_not_made⟩
  given := filter_made ▸ Artifact.byPath_perm _
  verified := verify_made

end Bundle

/-- Files that are assembled, whatever they are, give a bundle that is consistent with them, unless one that every
bundle must have is missing. -/
theorem assembled_consistent {name target : String} {files : List Artifact} {version : Option Int} {time : Instant}
    (fits : Metadata.VersionFits version) :
    ((∃ path, Bundle.assemble name files target version time = .error path) ↔
      Artifact.instructionsPath ∉ files.map Artifact.path ∨ Artifact.rollbackPath ∉ files.map Artifact.path) ∧
    (∀ path, Bundle.assemble name files target version time = .error path → FirstMissing files path) ∧
    (∀ b, Bundle.assemble name files target version time = .ok b → b.Consistent files) := by
  refine ⟨?_, fun path => Bundle.assemble_error_iff.mp, fun b assembled => ?_⟩
  · rw [← Bundle.firstMissing_exists]
    exact exists_congr fun path => Bundle.assemble_error_iff
  · rw [Bundle.eq_made_of_assemble assembled]
    exact Bundle.made_consistent fits

/-- Notes that stand twice, and metadata of another bundle. -/
def repeatedFiles : List Artifact :=
  [⟨Artifact.rollbackPath, "Drop it"⟩, ⟨Artifact.metadataPath, "\x7b\x7d"⟩, ⟨Artifact.rollbackPath, "Restore it"⟩,
    ⟨Artifact.instructionsPath, "Run \"deploy.sql\""⟩]

theorem repeated_files_assemble : ∃ b, Bundle.assemble "orders" repeatedFiles "snowflake:DB.\"P\".orders"
    (some (-3)) ⟨0⟩ = .ok b :=
  Bundle.assemble_isOk (by decide) (by decide)

theorem repeated_files_consistent :
    Metadata.VersionFits (some (-3)) ∧
    ∃ b, Bundle.assemble "orders" repeatedFiles "snowflake:DB.\"P\".orders" (some (-3)) ⟨0⟩ = .ok b ∧
      b.Consistent repeatedFiles := by
  have fits : Metadata.VersionFits (some (-3)) := by
    rintro n ⟨⟩
    decide
  obtain ⟨b, assembled⟩ := repeated_files_assemble
  obtain ⟨_, _, consistent⟩ := assembled_consistent fits
  exact ⟨fits, b, assembled, consistent b assembled⟩

end SemanticLayer
