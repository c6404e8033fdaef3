import SemanticLayer.Drift.Basic
import SemanticLayer.Ontology.Basic
import SemanticLayer.Provider.Basic
/-!
Differences between the properties of objects and the columns of their tables. Names agree in any
letter case. A property without a column is taken for renamed if exactly one column without a
property could hold it and no earlier property was given that column.
-/
namespace SemanticLayer.Drift

/-- The type that columns hold whose type starts with a word; of two words that both fit, the
first counts. -/
def typePrefixes : List (String × PropertyType) :=
  [("timestamp", .timestamp), ("datetime", .timestamp), ("time", .time), ("date", .date),
    ("varchar", .string), ("nvarchar", .string), ("char", .string), ("string", .string),
    ("text", .string), ("bigint", .integer), ("smallint", .integer), ("tinyint", .integer),
    ("byteint", .integer), ("int", .integer), ("number", .decimal), ("numeric", .decimal),
    ("decimal", .decimal), ("float", .number), ("double", .number), ("real", .number),
    ("bool", .boolean)]

/-- The type that a column of this type holds. -/
def typeFamily? (liveType : String) : Option PropertyType :=
  let cs := (foldWord liveType).toList
  (typePrefixes.find? fun p => Text.startsWith p.1.toList cs).map (·.2)

/-- Whether a property can be held by a column: fixed-point columns hold integers and all other
numbers, and floating-point columns hold decimals. -/
def compatible : PropertyType → PropertyType → Bool
  | .integer, .decimal => true
  | .number, .decimal => true
  | .decimal, .number => true
  | declared, live => declared = live

/-- Whether a column can hold a property. -/
def canHold (p : Property) (c : LiveColumn) : Bool :=
  match typeFamily? c.type with
  | some family => compatible p.type family
  | none => false

/-- A column without a property, and whether a property was taken for its earlier name. -/
structure Candidate where
  column : LiveColumn
  claimed : Bool
  deriving DecidableEq, Repr

/-- The columns that could hold a property and are not claimed. -/
def openTo (p : Property) (candidates : List Candidate) : List Candidate :=
  candidates.filter fun c => !c.claimed && canHold p c.column

/-- Claims the column that could hold a property. -/
def claim (p : Property) (candidates : List Candidate) : List Candidate :=
  candidates.map fun c => if !c.claimed && canHold p c.column then { c with claimed := true } else c

/-- The property is renamed to a column. -/
def renamed (o : Object) (table : String) (p : Property) (c : LiveColumn) : DriftEvent where
  kind := .columnRenamed
  area := .mapping
  element := s!"{o.name}.{p.name}"
  message := s!"Column for '{o.name}.{p.name}' appears renamed to '{c.name}' in {table}"
  details := .obj [("candidates", Json.ofNat 1), ("declared", .str p.name),
    ("live_column", .str c.name), ("live_type", .str c.type), ("table", .str table)]

/-- The property has no column. -/
def missing (o : Object) (table : String) (p : Property) (candidates : Nat) : DriftEvent where
  kind := .columnMissing
  area := .mapping
  element := s!"{o.name}.{p.name}"
  message := s!"Column '{p.name}' declared on '{o.name}' is missing from {table}"
  details := .obj [("declared_type", .str p.type.name), ("rename_candidates", Json.ofNat candidates),
    ("table", .str table)]

/-- The column has no property. -/
def added (o : Object) (table : String) (c : LiveColumn) : DriftEvent where
  kind := .columnAdded
  area := .mapping
  element := s!"{o.name}.{c.name}"
  message := s!"Column '{c.name}' in {table} is not declared on '{o.name}'"
  details := .obj [("live_type", .str c.type), ("table", .str table)]

/-- The differences of properties without columns, in their order, and the columns afterwards. -/
def matchRenames (o : Object) (table : String) :
    List Property → List Candidate → List DriftEvent × List Candidate
  | [], candidates => ([], candidates)
  | p :: rest, candidates =>
    match openTo p candidates with
    | [only] =>
      let (events, candidates) := matchRenames o table rest (claim p candidates)
      (renamed o table p only.column :: events, candidates)
    | fits =>
      let (events, candidates) := matchRenames o table rest candidates
      (missing o table p fits.length :: events, candidates)

/-- The differences between an object and its table. -/
def columnDrift (o : Object) (table : String) (live : LiveTable) : List DriftEvent :=
  let unmatched := o.properties.filter fun p => (live.column? p.name).isNone
  let free := live.columns.filter fun c =>
    o.properties.all fun p => !Text.sameIgnoringCase p.name c.name
  let (events, candidates) := matchRenames o table unmatched (free.map fun c => ⟨c, false⟩)
  events ++ (candidates.filter (!·.claimed)).map fun c => added o table c.column

/-- The object has no place to look for its table. -/
def unresolved (o : Object) (table : String) : DriftEvent where
  kind := .tableMissing
  area := .mapping
  element := o.name
  message := s!"Object '{o.name}' has no database/schema to look up table '{table}'"
  details := .obj [("reason", .str "unresolved_location"), ("table", .str table)]

/-- The table of the object does not exist. -/
def tableMissing (o : Object) (database schema table : String) : DriftEvent where
  kind := .tableMissing
  area := .mapping
  element := o.name
  message := s!"Table {database}.{schema}.{table} for object '{o.name}' does not exist"
  details := .obj [("database", .str database), ("schema", .str schema), ("table", .str table)]

/-- The differences of an object. The place of its table is its own, that of the mapping, or the
given one. -/
def objectDrift (ontology : Ontology) (provider : Provider) (database schema : Option String)
    (o : Object) : Except ProviderError (List DriftEvent) :=
  let table := ontology.physicalTable o
  match ontology.physicalDatabase? o <|> database, ontology.physicalSchema? o <|> schema with
  | some database, some schema =>
    match provider.table? database schema table with
    | .error e => .error e
    | .ok none => .ok [tableMissing o database schema table]
    | .ok (some live) => .ok (columnDrift o table live)
  | _, _ => .ok [unresolved o table]

/-- The differences of all objects. -/
def mappingDrift (ontology : Ontology) (provider : Provider) (database schema : Option String) :
    Except ProviderError (List DriftEvent) := do
  return (← ontology.objects.mapM (objectDrift ontology provider database schema)).flatten

end SemanticLayer.Drift
