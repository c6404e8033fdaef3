import SemanticLayer.Provider.Basic
/-!
A warehouse kept in memory. Tables and views are stored under their full names in any letter case;
the last one added under a name is the one that is found.
-/
namespace SemanticLayer

/-- Tables and views by their full names in upper case. -/
structure Catalog where
  tables : List (String × LiveTable)
  views : List (String × LiveView)
  /-- Why nothing can be asked, if that is so. -/
  outage : Option String

namespace Catalog

/-- A catalog without tables and views. -/
def empty : Catalog := ⟨[], [], none⟩

/-- A catalog that cannot be asked. -/
def unavailable (reason : String) : Catalog := ⟨[], [], some reason⟩

/-- The full name under which something is stored. -/
def key (database schema name : String) : String :=
  s!"{Text.asciiUpper database}.{Text.asciiUpper schema}.{Text.asciiUpper name}"

/-- Stores a table. -/
def addTable (c : Catalog) (t : LiveTable) : Catalog :=
  { c with tables := Keyed.insert (key t.database t.schema t.table) t c.tables }

/-- Stores a view. -/
def addView (c : Catalog) (database schema name yaml : String) : Catalog :=
  { c with views := Keyed.insert (key database schema name) ⟨name, yaml⟩ c.views }

/-- The answer, unless nothing can be asked. -/
def answer (c : Catalog) (found : Option α) : Except ProviderError (Option α) :=
  match c.outage with
  | some reason => .error (.unavailable reason)
  | none => .ok found

/-- The catalog as a provider. -/
def provider (c : Catalog) : Provider where
  name := "mock"
  table? database schema name := c.answer (Keyed.get? (key database schema name) c.tables)
  view? database schema name := c.answer (Keyed.get? (key database schema name) c.views)

end Catalog
end SemanticLayer
