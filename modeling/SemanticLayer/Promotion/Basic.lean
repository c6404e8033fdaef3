import SemanticLayer.Compile.Basic
import SemanticLayer.Promotion.Rollback
/-!
Promotion of an ontology through environments, each with a view of its own. Environments for
development come first and those for production last; within a rank they are in the order of their
names. The bundle of a promotion has scripts for each of them.
-/
namespace SemanticLayer

/-- An environment: its name and its view. -/
abbrev Environment := String × View

/-- Why a promotion gives no bundle. -/
inductive PromotionError where
  | noEnvironments
  | compile (environment : String) (error : CompileError)
  /-- A file that every bundle must have is missing. -/
  | missingFile (path : String)
  deriving DecidableEq, Repr

/-- The wording of an error. -/
def PromotionError.message : PromotionError → String
  | .noEnvironments => "no promotion environments configured"
  | .compile environment error => s!"environment '{environment}': {error.message}"
  | .missingFile path => missingFileMessage path

/-- The options of a promotion. -/
structure PromotionOptions where
  version : Option Int
  time : Instant
  deriving Repr

namespace Promotion

/-- The ranks of the names that are known. -/
def ranks : List (String × Nat) :=
  [("dev", 0), ("development", 0), ("local", 0), ("test", 1), ("qa", 1), ("ci", 1),
    ("staging", 2), ("stage", 2), ("uat", 2), ("preprod", 2),
    ("prod", 4), ("production", 4), ("live", 4)]

/-- The rank of an environment. Names that are not known stand before production. -/
def rank (name : String) : Nat := (Keyed.get? (foldWord name) ranks).getD 3

/-- Environments in the order of a promotion. -/
def ordered (environments : List Environment) : List Environment :=
  environments.mergeSort fun a b =>
    rank a.1 < rank b.1 || (rank a.1 = rank b.1 && textLe a.1 b.1)

/-- The ontology with its mapping moved to the place of a view. -/
def retarget (o : Ontology) (view : View) : Ontology :=
  let mapping := o.mapping.getD ⟨"", "", none, []⟩
  { o with mapping := some { mapping with database := view.database, schema := view.schema } }

/-- What an environment adds to a bundle. -/
structure Stage where
  name : String
  view : View
  compiled : Compiled
  rollback : RollbackPlan

/-- Paths of the files of an environment, below a directory of its name. -/
def rollbackSqlPath : String := "rollback.sql"
def rollbackModelPath : String := "rollback_semantic_model.yaml"

/-- Compiles the ontology for an environment. -/
def stage (o : Ontology) (provider : Option Provider) (version : Option Int)
    (environment : Environment) : Except PromotionError Stage :=
  let (name, view) := environment
  match Compile.forView (retarget o view) view version with
  | .error e => .error (.compile name e)
  | .ok compiled => .ok ⟨name, view, compiled, RollbackPlan.of view provider⟩

namespace Stage

/-- The files of an environment. -/
def files (s : Stage) : List Artifact :=
  [⟨s!"{s.name}/{Compile.verifyPath}", s.compiled.verifySql⟩,
    ⟨s!"{s.name}/{Compile.deployPath}", s.compiled.deploySql⟩,
    ⟨s!"{s.name}/{rollbackSqlPath}", s.rollback.sql⟩]
  ++ (s.rollback.exportedYaml.map fun yaml => ⟨s!"{s.name}/{rollbackModelPath}", yaml⟩).toList

/-- How to promote to an environment, the step of which has a number. -/
def instructions (number : Nat) (s : Stage) : String :=
  s!"## {number}. {s.name} (`{s.view.qualifiedName}`)\n\n" ++
  s!"1. Run `{s.name}/{Compile.verifyPath}` and confirm it succeeds.\n" ++
  s!"2. Run `{s.name}/{Compile.deployPath}`.\n" ++
  "3. Confirm the exact-name lookup after `SHOW SEMANTIC VIEWS` returns the view.\n\n"

/-- What the rollback of an environment does. -/
def strategy (s : Stage) : String :=
  if s.rollback.restores then
    "restores the previously deployed definition " ++
      s!"(saved as `{s.name}/{rollbackModelPath}`)"
  else "drops the view; no previous definition was exported"

/-- How to roll an environment back. -/
def rollbackNote (s : Stage) : String :=
  s!"- **{s.name}** (`{s.view.qualifiedName}`): run `{s.name}/{rollbackSqlPath}`, " ++
    s!"which {s.strategy}.\n"

end Stage

/-- How to promote. -/
def instructions (stages : List Stage) (version : Option Int) : String :=
  "# Promotion workflow\n\n" ++
  s!"Version: {Sql.versionLabel version}\n\n" ++
  "Promote one environment at a time in the order below, starting with the first.\n" ++
  "Move on only after the current environment's deploy check returns the view.\n" ++
  s!"`{Compile.modelPath}` is the model as rendered for the first environment; each\n" ++
  "environment's scripts embed the model with its own database and schema.\n\n" ++
  String.join (stages.zipIdx.map fun (s, index) => s.instructions (index + 1)) ++
  "Compare the checksum in `metadata.json` with the reviewed bundle before each step.\n"

/-- How to roll back. -/
def rollbackNotes (stages : List Stage) : String :=
  "# Rollback\n\n" ++
  "Roll back in reverse promotion order, starting with the last environment deployed.\n\n" ++
  String.join (stages.reverse.map Stage.rollbackNote)

/-- The views of a promotion with their environments. -/
def targetId (stages : List Stage) : String :=
  View.platform ++ ":" ++
    Text.join "," (stages.map fun s => s!"{s.name}={s.view.qualifiedName}")

/-- The files of a promotion, without the metadata. The first environment gives the model. -/
def files (first : Stage) (stages : List Stage) (version : Option Int) : List Artifact :=
  stages.flatMap Stage.files ++
  [⟨Compile.modelPath, first.compiled.yaml⟩,
    ⟨Artifact.instructionsPath, instructions stages version⟩,
    ⟨Artifact.rollbackPath, rollbackNotes stages⟩]

/-- The bundle that promotes an ontology. -/
def bundle (o : Ontology) (environments : List Environment) (provider : Option Provider)
    (options : PromotionOptions) : Except PromotionError Bundle := do
  let stages ← (ordered environments).mapM (stage o provider options.version)
  match stages with
  | [] => .error .noEnvironments
  | first :: _ =>
    match Bundle.assemble s!"{first.view.name}_promotion" (files first stages options.version)
      (targetId stages) options.version options.time with
    | .ok bundle => return bundle
    | .error path => .error (.missingFile path)

end Promotion
end SemanticLayer
