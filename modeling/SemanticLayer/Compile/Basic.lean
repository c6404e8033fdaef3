import SemanticLayer.Bundle.Basic
import SemanticLayer.Compile.Options
import SemanticLayer.Model.Yaml
import SemanticLayer.Sql.Script
/-!
Compilation of an ontology: its model for a view, the scripts that verify and deploy it, and the
bundle that holds them with instructions.
-/
namespace SemanticLayer

/-- What an ontology becomes for a view. -/
structure Compiled where
  view : View
  model : Model
  yaml : String
  verifySql : String
  deploySql : String

namespace Compile

/-- Paths of the files of a bundle. -/
def modelPath : String := "semantic_model.yaml"
def verifyPath : String := "verify.sql"
def deployPath : String := "deploy.sql"

/-- Compiles an ontology for a view, which must have a name. -/
def forView (o : Ontology) (view : View) (version : Option Int) : Except CompileError Compiled :=
  if Text.allBlank view.name then .error .emptyViewName
  else
    let model := Model.build o view
    let yaml := model.render
    .ok ⟨view, model, yaml, Sql.verifyScript view yaml version, Sql.deployScript view yaml version⟩

/-- Compiles an ontology for the view that the options name. -/
def model (o : Ontology) (options : CompileOptions) : Except CompileError Compiled := do
  forView o (← resolveView o options) options.version

/-- How to deploy a view. -/
def instructions (c : Compiled) (version : Option Int) : String :=
  s!"# Deploy semantic view `{c.view.name}`\n\n" ++
  s!"Target: `{c.view.qualifiedName}`  \n" ++
  s!"Version: {Sql.versionLabel version}  \n" ++
  s!"Logical tables: {c.model.tables.length}, relationships: {c.model.relationships.length}, " ++
  s!"facts: {c.model.facts.length}\n\n" ++
  "## Steps\n\n" ++
  s!"1. Run `{verifyPath}`. The call validates `{modelPath}` without creating the view.\n" ++
  s!"2. If verification succeeds, run `{deployPath}`.\n" ++
  "3. Confirm the final exact-name lookup after `SHOW SEMANTIC VIEWS` returns one row.\n\n" ++
  "Compare the checksum in `metadata.json` against the reviewed bundle before deploying.\n"

/-- How to roll a view back. -/
def rollbackNotes (view : View) : String :=
  s!"# Roll back semantic view `{view.name}`\n\n" ++
  "This bundle carries no exported previous definition. To remove the view:\n\n" ++
  s!"```sql\n{Sql.dropScript view}```\n\n" ++
  s!"To restore an earlier definition, redeploy the `{deployPath}` of the previous bundle.\n"

/-- The files of the bundle of a compiled ontology, without the metadata. -/
def files (c : Compiled) (version : Option Int) : List Artifact :=
  [⟨modelPath, c.yaml⟩, ⟨verifyPath, c.verifySql⟩, ⟨deployPath, c.deploySql⟩,
    ⟨Artifact.instructionsPath, instructions c version⟩,
    ⟨Artifact.rollbackPath, rollbackNotes c.view⟩]

/-- Compiles an ontology to a bundle. -/
def bundle (o : Ontology) (options : CompileOptions) : Except CompileError Bundle := do
  let c ← model o options
  match Bundle.assemble c.view.name (files c options.version) c.view.identifier options.version
    options.time with
  | .ok bundle => return bundle
  | .error path => .error (.missingFile path)

end Compile
end SemanticLayer
