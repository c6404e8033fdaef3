import SemanticLayer.Proofs.BundleContents
import SemanticLayer.Proofs.TextOrder

/-! What the checksum of a bundle says of its files. The text that is hashed has one line break before
each file but the first, and a content may hold line breaks too; so the files can be told apart in the
text only where no line of a content looks like the start of another file (`lines_not_inside`). For such
files the text determines them, and a bundle that verifies has the files that were assembled, or else
shows two texts of one hash. Main statement: `checksum_identifies`. -/
namespace SemanticLayer

namespace Artifact

/-- Whether a path shows where it ends in the text of a checksum. -/
def PlainPath (path : String) : Prop := ':' ∉ path.toList ∧ '\n' ∉ path.toList

instance (path : String) : Decidable (PlainPath path) := inferInstanceAs (Decidable (_ ∧ _))

/-- How a file starts on a line of its own in the text of a checksum. -/
def start (path : String) : List Char := '\n' :: (path.toList ++ [':'])

/-- A file of one of some paths, no line of which starts as the file of such a path does. -/
def Among (paths : List String) (f : Artifact) : Prop :=
  f.path ∈ paths ∧ ∀ path ∈ paths, ¬ start path <:+: f.content.toList

instance (paths : List String) (f : Artifact) : Decidable (f.Among paths) :=
  inferInstanceAs (Decidable (_ ∧ _))

/-- The text of files in a checksum, each on a line of its own. -/
def lines (files : List Artifact) : List Char := files.flatMap fun f => start f.path ++ f.content.toList

theorem byPath_sorted (files : List Artifact) :
    (byPath files).Pairwise fun a b => a.path ≤ b.path := by
  have sorted := @List.pairwise_mergeSort Artifact (fun a b => textLe a.path b.path)
    (fun _ _ _ => textLe_trans) (fun a b => textLe_total a.path b.path) files
  exact sorted.imp textLe_iff.mp

theorem byPath_eq_of_perm {xs ys : List Artifact} (distinct : (xs.map path).Nodup) (perm : xs.Perm ys) :
    byPath xs = byPath ys := by
  have same : (byPath xs).Perm (byPath ys) := (byPath_perm xs).trans (perm.trans (byPath_perm ys).symm)
  refine same.eq_of_pairwise (fun f g here there before after => ?_) (byPath_sorted xs) (byPath_sorted ys)
  have listed : g ∈ xs := perm.mem_iff.mpr ((byPath_perm ys).mem_iff.mp there)
  exact List.inj_on_of_nodup_map distinct ((byPath_perm xs).mem_iff.mp here) listed
    (String.le_antisymm before after)

section Lines
variable {paths : List String} {xs ys : List Artifact} {cs ds rest : List Char}

/-- The lines of files do not start inside of a content. -/
theorem lines_not_inside (plain : ∀ path ∈ paths, PlainPath path) (known : ∀ g ∈ xs, g.Among paths)
    (clean : ∀ path ∈ paths, ¬ start path <:+: ds) (parted : ds = cs ++ rest)
    (same : lines xs = rest ++ lines ys) : rest = [] := by
  cases xs with
  | nil => exact (List.append_eq_nil_iff.mp same.symm).1
  | cons g xs =>
    have path := (known g List.mem_cons_self).1
    rw [lines, List.flatMap_cons, List.append_assoc] at same
    rcases List.append_eq_append_iff.mp same with ⟨more, rfl, _⟩ | ⟨left, split, below⟩
    · -- The start of the file is read in the content.
      exact absurd ⟨cs, more, by rw [parted, List.append_assoc]⟩ (clean g.path path)
    · cases left with
      | nil =>
        rw [List.append_nil] at split
        exact absurd ⟨cs, [], by rw [parted, split, List.append_nil]⟩ (clean g.path path)
      | cons c left =>
        cases rest with
        | nil => rfl
        | cons d rest =>
          -- The next file would start with a line break inside of the path.
          have isBreak : c = '\n' := by
            cases ys with
            | nil => cases below
            | cons h ys => exact (List.cons.inj below).1.symm
          have member : c ∈ g.path.toList ++ [':'] := by
            rw [(List.cons.inj split).2]
            simp
          rw [isBreak, List.mem_append] at member
          rcases member with inPath | colon
          · exact absurd inPath (plain g.path path).2
          · exact absurd colon (by decide)

theorem content_eq (plain : ∀ path ∈ paths, PlainPath path) (left : ∀ g ∈ xs, g.Among paths)
    (right : ∀ g ∈ ys, g.Among paths) (clean : ∀ path ∈ paths, ¬ start path <:+: cs)
    (cleanToo : ∀ path ∈ paths, ¬ start path <:+: ds) (same : cs ++ lines xs = ds ++ lines ys) :
    cs = ds := by
  rcases List.append_eq_append_iff.mp same with ⟨rest, longer, tail⟩ | ⟨rest, longer, tail⟩
  · have inside := lines_not_inside plain left cleanToo longer tail
    rw [longer, inside, List.append_nil]
  · have inside := lines_not_inside plain right clean longer tail
    rw [longer, inside, List.append_nil]

/-- Files are read off their lines. -/
theorem lines_injective (plain : ∀ path ∈ paths, PlainPath path) (left : ∀ g ∈ xs, g.Among paths)
    (right : ∀ g ∈ ys, g.Among paths) (same : lines xs = lines ys) : xs = ys := by
  induction xs generalizing ys with
  | nil =>
    cases ys with
    | nil => rfl
    | cons g ys => cases same
  | cons f xs ih =>
    cases ys with
    | nil => cases same
    | cons g ys =>
      obtain ⟨known, later⟩ := List.forall_mem_cons.mp left
      obtain ⟨knownToo, laterToo⟩ := List.forall_mem_cons.mp right
      have texts : f.path.toList ++ ':' :: (f.content.toList ++ lines xs) =
          g.path.toList ++ ':' :: (g.content.toList ++ lines ys) := by
        simpa [lines, start] using same
      obtain ⟨path, behind⟩ := cut_first (plain _ known.1).1 (plain _ knownToo.1).1 texts
      have content := content_eq plain later laterToo known.2 knownToo.2 behind
      rw [content] at behind
      have same : f = g := by
        cases f
        cases g
        cases String.toList_inj.mp path
        cases String.toList_inj.mp content
        rfl
      rw [same, ih later laterToo (List.append_cancel_left behind)]

/-- Joined texts of files are their lines without the line break before the first. -/
theorem join_entries (files : List Artifact) :
    (Text.join "\n" (files.map entry)).toList = (lines files).tail := by
  have chars (f : Artifact) : f.entry.toList = f.path.toList ++ ':' :: f.content.toList := by
    show (f.path ++ ":" ++ f.content).toList = _
    rw [String.toList_append, String.toList_append, List.append_assoc]
    rfl
  induction files with
  | nil => rfl
  | cons f files ih =>
    cases files with
    | nil => simp [lines, start, Text.join, chars]
    | cons g files =>
      have further : lines (g :: files) = '\n' :: (lines (g :: files)).tail := rfl
      rw [lines, List.flatMap_cons, ← lines, further, ← ih]
      simp [start, Text.join, chars]

theorem lines_eq_of_tail (same : (lines xs).tail = (lines ys).tail) : lines xs = lines ys := by
  cases xs <;> cases ys
  · rfl
  · simp [lines, start] at same
  · simp [lines, start] at same
  · exact congrArg ('\n' :: ·) same

end Lines
end Artifact

open Artifact

/-- Two texts of one hash. -/
def Digest.Collide (a b : String) : Prop := a ≠ b ∧ hashText a = hashText b

section Checksum
variable {paths : List String} {xs ys : List Artifact}

theorem perm_of_checksumText (plain : ∀ path ∈ paths, PlainPath path) (left : ∀ f ∈ xs, f.Among paths)
    (right : ∀ f ∈ ys, f.Among paths) (same : checksumText xs = checksumText ys) : xs.Perm ys := by
  have texts := congrArg String.toList same
  rw [checksumText, checksumText, join_entries, join_entries] at texts
  have ordered : byPath xs = byPath ys :=
    lines_injective plain (fun f listed => left f ((byPath_perm xs).mem_iff.mp listed))
      (fun f listed => right f ((byPath_perm ys).mem_iff.mp listed)) (lines_eq_of_tail texts)
  exact (byPath_perm xs).symm.trans (ordered ▸ byPath_perm ys)

theorem checksumText_of_perm (distinct : (ys.map path).Nodup) (perm : xs.Perm ys) :
    checksumText xs = checksumText ys := by
  rw [checksumText, checksumText, byPath_eq_of_perm distinct perm.symm]

/-- The checksum identifies files of known paths, if no line of a content starts as one of them does:
the text that is hashed determines them, and a bundle that verifies has the files that were assembled,
unless their texts collide. -/
theorem checksum_identifies (plain : ∀ path ∈ paths, PlainPath path) :
    (∀ xs ys : List Artifact, (∀ f ∈ xs, f.Among paths) → (∀ f ∈ ys, f.Among paths) →
      (ys.map path).Nodup → (checksumText xs = checksumText ys ↔ xs.Perm ys)) ∧
    (∀ (name target : String) (files changed : List Artifact) (version : Option Int) (time : Instant)
      (b : Bundle), Bundle.assemble name files target version time = .ok b →
      (∀ f ∈ changed.filter isContent, f.Among paths) → (∀ f ∈ files.filter isContent, f.Among paths) →
      ((files.filter isContent).map path).Nodup →
      (Bundle.verify { b with files := changed } = true ↔
        (changed.filter isContent).Perm (files.filter isContent) ∨
        Digest.Collide (checksumText (changed.filter isContent)) (checksumText (files.filter isContent)))) := by
  refine ⟨fun xs ys left right distinct => ⟨perm_of_checksumText plain left right,
    checksumText_of_perm distinct⟩, ?_⟩
  intro name target files changed version time b assembled left right distinct
  have verified : Bundle.verify { b with files := changed } = true ↔
      Digest.hashText (checksumText (changed.filter isContent)) =
        Digest.hashText (checksumText (files.filter isContent)) := by
    rw [Bundle.verify, beq_iff_eq, (Bundle.assemble_ok assembled).1]
    rfl
  rw [verified]
  constructor
  · intro hashes
    by_cases same : checksumText (changed.filter isContent) = checksumText (files.filter isContent)
    · exact .inl (perm_of_checksumText plain left right same)
    · exact .inr ⟨same, hashes⟩
  · rintro (perm | collide)
    · rw [checksumText_of_perm distinct perm]
    · exact collide.2

end Checksum

/-- Instructions that deploy and notes that drop. -/
def twoFiles : List Artifact :=
  [⟨Artifact.instructionsPath, "Run\ndeploy.sql"⟩, ⟨Artifact.rollbackPath, "Drop it"⟩]

theorem two_files_assemble :
    ∃ b, Bundle.assemble "orders" twoFiles "snowflake:DB.PUBLIC.orders" none ⟨0⟩ = .ok b :=
  Bundle.assemble_isOk (by decide) (by decide)

/-- The same with another step in the instructions. -/
def editedFiles : List Artifact :=
  [⟨Artifact.instructionsPath, "Run\ndrop.sql"⟩, ⟨Artifact.rollbackPath, "Drop it"⟩]

theorem edited_files_identified :
    (∀ path ∈ [instructionsPath, rollbackPath], PlainPath path) ∧
    checksumText editedFiles ≠ checksumText twoFiles ∧
    ∃ b, Bundle.assemble "orders" twoFiles "snowflake:DB.PUBLIC.orders" none ⟨0⟩ = .ok b ∧
      Bundle.verify b = true ∧
      (Bundle.verify { b with files := editedFiles } = true →
        Digest.Collide (checksumText editedFiles) (checksumText twoFiles)) := by
  have plain : ∀ path ∈ [instructionsPath, rollbackPath], PlainPath path := by decide
  have among : ∀ f ∈ twoFiles.filter isContent, f.Among [instructionsPath, rollbackPath] := by decide
  have amongToo : ∀ f ∈ editedFiles.filter isContent, f.Among [instructionsPath, rollbackPath] := by
    decide
  have distinct : ((twoFiles.filter isContent).map Artifact.path).Nodup := by decide
  have differ : ¬ (editedFiles.filter isContent).Perm (twoFiles.filter isContent) := by decide
  obtain ⟨texts, bundles⟩ := checksum_identifies plain
  obtain ⟨b, assembled⟩ := two_files_assemble
  have identified := fun changed => bundles _ _ twoFiles changed _ _ b assembled
  have kept := Bundle.content_assemble assembled
  refine ⟨plain, fun same => differ ((texts _ _ amongToo among distinct).mp same), b, assembled, ?_, ?_⟩
  · have amongKept : ∀ f ∈ b.files.filter isContent, f.Among [instructionsPath, rollbackPath] :=
      fun f listed => among f (kept.mem_iff.mp listed)
    exact (identified b.files amongKept among distinct).mpr (.inl kept)
  · intro verified
    exact ((identified editedFiles amongToo among distinct).mp verified).resolve_left differ

/-- The two files in one. -/
def mergedFiles : List Artifact := [⟨instructionsPath, "Run\ndeploy.sql\nrollback.md:Drop it"⟩]

/-- Files can be merged unseen: what is hashed of two files is hashed of one that has the text of both. -/
theorem merged_files_verify : ∃ b,
    Bundle.assemble "orders" twoFiles "snowflake:DB.PUBLIC.orders" none ⟨0⟩ = .ok b ∧
    checksumText mergedFiles = checksumText twoFiles ∧
    ¬ mergedFiles.Perm twoFiles ∧
    Bundle.verify { b with files := mergedFiles } = true := by
  obtain ⟨b, assembled⟩ := two_files_assemble
  have sorted : byPath twoFiles = twoFiles := List.mergeSort_of_pairwise (by decide)
  have sameText : checksumText mergedFiles = checksumText twoFiles := by
    rw [checksumText, checksumText, sorted, mergedFiles, byPath, List.mergeSort_singleton]
    rfl
  refine ⟨b, assembled, sameText, by decide, ?_⟩
  have content : twoFiles.filter isContent = twoFiles := by decide
  rw [Bundle.verify, beq_iff_eq, (Bundle.assemble_ok assembled).1, content]
  exact congrArg Digest.hashText sameText

end SemanticLayer
