import SemanticLayer.Model.Basic
import SemanticLayer.Sql.Literal
/-!
The scripts for a semantic view: to verify a definition without creating the view, to deploy it, to
restore an earlier definition, and to drop the view.
-/
namespace SemanticLayer.Sql

/-- A version as headings give it. -/
def versionLabel : Option Int → String
  | some version => toString version
  | none => "unversioned"

/-- The call that creates a view from its definition, or only verifies it. -/
def createCall (view : View) (yaml : String) (verifyOnly : Bool) : String :=
  let flag := if verifyOnly then "TRUE" else "FALSE"
  s!"CALL SYSTEM$CREATE_SEMANTIC_VIEW_FROM_YAML(\n  {quote view.qualifiedSchema},\n" ++
    s!"  {block yaml},\n  verify_only => {flag}\n);\n"

/-- Lists the views of this name. The pattern of the listing may match other names too, so the
listing is searched for the exact name. -/
def existenceCheck (view : View) : String :=
  s!"SHOW SEMANTIC VIEWS LIKE {quote (likePattern view.name)} IN SCHEMA " ++
    s!"{view.qualifiedSchema};\n" ++
    "SELECT \"name\" FROM TABLE(RESULT_SCAN(LAST_QUERY_ID())) WHERE \"name\" = " ++
    s!"{quote view.name};\n"

/-- The statement that drops a view, and an empty line. -/
def dropStatement (view : View) : String :=
  s!"DROP SEMANTIC VIEW IF EXISTS {view.qualifiedName};\n\n"

/-- Verifies a definition. -/
def verifyScript (view : View) (yaml : String) (version : Option Int) : String :=
  s!"-- Verify semantic view {view.qualifiedName} (version {versionLabel version})\n" ++
    createCall view yaml true

/-- Deploys a definition and checks that the view is there. -/
def deployScript (view : View) (yaml : String) (version : Option Int) : String :=
  s!"-- Deploy semantic view {view.qualifiedName} (version {versionLabel version})\n" ++
    createCall view yaml false ++
    "\n-- Post-deploy check: the view must exist\n" ++ existenceCheck view

/-- Puts an earlier definition in the place of a view. -/
def restoreScript (view : View) (yaml : String) : String :=
  s!"-- Roll back semantic view {view.qualifiedName} to the previously deployed definition\n" ++
    dropStatement view ++ createCall view yaml false ++ "\n" ++ existenceCheck view

/-- Drops a view. -/
def dropScript (view : View) : String :=
  s!"-- Roll back semantic view {view.qualifiedName} (no previous definition exported)\n" ++
    dropStatement view ++ "-- Expect zero rows\n" ++ existenceCheck view

end SemanticLayer.Sql
