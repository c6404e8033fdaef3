import SemanticLayer.Proofs.ColumnMatching
import SemanticLayer.Provider.Catalog

/-! How the search for differences accounts for the columns of a table. Properties and columns of the same
name are set aside. Each of the other properties is looked at once, with the columns in view that no earlier
one has claimed; each of the other columns is claimed by one of them or reported as added. Main statement:
`columns_accounted`. -/
namespace SemanticLayer.Drift

/-! ### What is to be accounted for -/

/-- The properties of an object that no column of a table has the name of. -/
def unmatchedProperties (o : Object) (live : LiveTable) : List Property :=
  o.properties.filter fun p => ∀ c ∈ live.columns, ¬ SameName c.name p.name

/-- The columns of a table that no property of an object has the name of. -/
def unmatchedColumns (o : Object) (live : LiveTable) : List LiveColumn :=
  live.columns.filter fun c => ∀ p ∈ o.properties, ¬ SameName p.name c.name

/-- What is said of a property without a column. -/
inductive Verdict where
  /-- It has become the column that stands at a place among those without a property. -/
  | renamed (place : Nat) (column : LiveColumn)
  /-- It is missing. So many columns could hold it. -/
  | missing (fits : Nat)
  deriving DecidableEq, Repr

/-- The event that reports a verdict on a property. It names the property, and the column that it has become or
how many columns could hold it. -/
def Verdict.event (o : Object) (table : String) (p : Property) : Verdict → DriftEvent
  | .renamed _ column => {
      kind := .columnRenamed
      area := .mapping
      element := s!"{o.name}.{p.name}"
      message := s!"Column for '{o.name}.{p.name}' appears renamed to '{column.name}' in {table}"
      details := .obj [("candidates", .int 1), ("declared", .str p.name), ("live_column", .str column.name),
        ("live_type", .str column.type), ("table", .str table)] }
  | .missing fits => {
      kind := .columnMissing
      area := .mapping
      element := s!"{o.name}.{p.name}"
      message := s!"Column '{p.name}' declared on '{o.name}' is missing from {table}"
      details := .obj [("declared_type", .str p.type.name), ("rename_candidates", .int fits),
        ("table", .str table)] }

/-- The event that reports a column without a property. It names the column and its type. -/
def additionEvent (o : Object) (table : String) (column : LiveColumn) : DriftEvent where
  kind := .columnAdded
  area := .mapping
  element := s!"{o.name}.{column.name}"
  message := s!"Column '{column.name}' in {table} is not declared on '{o.name}'"
  details := .obj [("live_type", .str column.type), ("table", .str table)]

/-- The place that a verdict claims. -/
def Verdict.claim? : Verdict → Option Nat
  | .renamed place _ => some place
  | .missing _ => none

/-- The column that a verdict claims. -/
def Verdict.column? : Verdict → Option LiveColumn
  | .renamed _ column => some column
  | .missing _ => none

/-- The places that are claimed. -/
def claims (verdicts : List Verdict) : List Nat := verdicts.filterMap Verdict.claim?

/-- The columns that may hold a property and are not claimed, with their places. -/
def openColumns (p : Property) (free : List LiveColumn) (claimed : List Nat) : List (LiveColumn × Nat) :=
  free.zipIdx.filter fun c => c.2 ∉ claimed ∧ MayHold c.1 p

/-- The columns that are not claimed. -/
def unclaimed (free : List LiveColumn) (claimed : List Nat) : List LiveColumn :=
  (free.zipIdx.filter fun c => !claimed.contains c.2).map Prod.fst

/-- The verdicts on properties without a column, when some places have been claimed before. -/
structure Accounts (free : List LiveColumn) (claimed : List Nat) (properties : List Property)
    (verdicts : List Verdict) : Prop where
  /-- There is a verdict on each property. -/
  each : verdicts.length = properties.length
  /-- No column is claimed twice. -/
  once : (claimed ++ claims verdicts).Nodup
  /-- A property is renamed to the one column of a compatible type that is not claimed yet. -/
  renamed : ∀ (i : Nat) (p : Property) (place : Nat) (column : LiveColumn), properties[i]? = some p →
    verdicts[i]? = some (.renamed place column) →
      free[place]? = some column ∧ MayHold column p ∧
      openColumns p free (claimed ++ claims (verdicts.take i)) = [(column, place)]
  /-- A property is missing if no such column is left, or several are. -/
  missing : ∀ (i : Nat) (p : Property) (fits : Nat), properties[i]? = some p →
    verdicts[i]? = some (.missing fits) →
      (openColumns p free (claimed ++ claims (verdicts.take i))).length = fits ∧ fits ≠ 1

/-! ### One property after the other -/

section Steps
variable {p : Property} {free : List LiveColumn} {claimed : List Nat} {properties : List Property}
  {verdicts : List Verdict} {column : LiveColumn} {place : Nat}

theorem mem_openColumns : (column, place) ∈ openColumns p free claimed ↔
    free[place]? = some column ∧ place ∉ claimed ∧ MayHold column p := by
  simp [openColumns, List.mem_zipIdx_iff_getElem?]

/-- The columns without a property, of which those at the given places are claimed. -/
def flagged (free : List LiveColumn) (claimed : List Nat) : List Candidate :=
  free.zipIdx.map fun c => ⟨c.1, claimed.contains c.2⟩

theorem flagged_nil : flagged free [] = free.map fun c => ⟨c, false⟩ := by
  calc flagged free []
      _ = free.zipIdx.map ((fun c => ⟨c, false⟩) ∘ Prod.fst) := rfl
      _ = (free.zipIdx.map Prod.fst).map fun c => ⟨c, false⟩ := List.map_map.symm
      _ = free.map fun c => ⟨c, false⟩ := by rw [List.zipIdx_map_fst]

theorem openTo_flagged :
    openTo p (flagged free claimed) = (openColumns p free claimed).map fun c => ⟨c.1, false⟩ := by
  have open_eq : openColumns p free claimed =
      free.zipIdx.filter fun c => !claimed.contains c.2 && canHold p c.1 := by
    refine List.filter_congr fun c _ => ?_
    rw [Bool.eq_iff_iff]
    simp [canHold_iff]
  rw [open_eq, openTo, flagged, List.filter_map]
  apply List.map_congr_left
  intro c kept
  have isOpen := (List.mem_filter.mp kept).2
  simp only [Function.comp_apply, Bool.and_eq_true, Bool.not_eq_true'] at isOpen
  rw [isOpen.1]

/-- Where one column is open to a property, that column is claimed. -/
theorem claim_flagged (one : openColumns p free claimed = [(column, place)]) :
    Drift.claim p (flagged free claimed) = flagged free (claimed ++ [place]) := by
  have only : (column, place) ∈ openColumns p free claimed := by simp [one]
  obtain ⟨there, _, _⟩ := mem_openColumns.mp only
  unfold Drift.claim flagged
  rw [List.map_map]
  apply List.map_congr_left
  rintro ⟨c, i⟩ listed
  have here : free[i]? = some c := List.mem_zipIdx_iff_getElem?.mp listed
  have open_iff : i ∉ claimed ∧ MayHold c p ↔ i = place := by
    constructor
    · intro isOpen
      have found : (c, i) ∈ openColumns p free claimed := mem_openColumns.mpr ⟨here, isOpen⟩
      rw [one, List.mem_singleton, Prod.mk.injEq] at found
      exact found.2
    · rintro rfl
      cases here.symm.trans there
      exact (mem_openColumns.mp only).2
  by_cases claims : i = place
  · obtain ⟨_, fits⟩ := open_iff.mpr claims
    simp [canHold_iff.mpr fits, claims]
  · have kept := mt open_iff.mp claims
    rw [not_and, ← canHold_iff] at kept
    by_cases before : i ∈ claimed
    · simp [before]
    · simp [before, claims, kept before]

theorem unclaimed_flagged : ((flagged free claimed).filter (!·.claimed)).map Candidate.column =
    unclaimed free claimed := by
  unfold flagged unclaimed
  rw [List.filter_map, List.map_map]
  rfl

/-- A verdict on one more property, before those that follow from the places claimed with it. -/
theorem Accounts.cons {verdict : Verdict} (rest : Accounts free (claimed ++ claims [verdict]) properties verdicts)
    (renamed : ∀ place column, verdict = .renamed place column →
      openColumns p free claimed = [(column, place)])
    (missing : ∀ fits, verdict = .missing fits →
      (openColumns p free claimed).length = fits ∧ fits ≠ 1) :
    Accounts free claimed (p :: properties) (verdict :: verdicts) := by
  have split : ∀ later, claimed ++ claims (verdict :: later) = claimed ++ claims [verdict] ++ claims later := by
    intro later
    rw [List.append_assoc, claims, claims, claims, ← List.filterMap_append, List.singleton_append]
  refine ⟨?_, ?_, ?_, ?_⟩
  · rw [List.length_cons, List.length_cons, rest.each]
  · rw [split]
    exact rest.once
  · intro i q place column isProperty isVerdict
    cases i with
    | zero =>
      cases Option.some.inj isProperty
      have one := renamed place column (Option.some.inj isVerdict)
      obtain ⟨there, _, fits⟩ := mem_openColumns.mp (one ▸ List.mem_singleton_self (column, place))
      refine ⟨there, fits, ?_⟩
      rw [List.take_zero, claims, List.filterMap_nil, List.append_nil]
      exact one
    | succ i =>
      rw [List.take_succ_cons, split]
      exact rest.renamed i q place column isProperty isVerdict
  · intro i q fits isProperty isVerdict
    cases i with
    | zero =>
      cases Option.some.inj isProperty
      rw [List.take_zero, claims, List.filterMap_nil, List.append_nil]
      exact missing fits (Option.some.inj isVerdict)
    | succ i =>
      rw [List.take_succ_cons, split]
      exact rest.missing i q fits isProperty isVerdict

/-- A property that is open to no column or to several is missing. -/
theorem matchRenames_missing {candidates : List Candidate} (o : Object) (table : String)
    (several : (openTo p candidates).length ≠ 1) :
    matchRenames o table (p :: properties) candidates =
      (missing o table p (openTo p candidates).length :: (matchRenames o table properties candidates).1,
        (matchRenames o table properties candidates).2) := by
  rw [matchRenames]
  split
  · next only single => simp [single] at several
  · rfl

/-- The search passes a verdict on each property, and flags what it claims. -/
theorem matchRenames_accounts (o : Object) (table : String) (distinct : claimed.Nodup) :
    ∃ verdicts, Accounts free claimed properties verdicts ∧
      matchRenames o table properties (flagged free claimed) =
        (List.zipWith (Verdict.event o table) properties verdicts,
          flagged free (claimed ++ claims verdicts)) := by
  -- What the properties before have claimed is all that the rest of the search knows of them.
  induction properties generalizing claimed with
  | nil =>
    refine ⟨[], ⟨rfl, ?_, ?_, ?_⟩, ?_⟩
    · simpa [claims] using distinct
    · intro i p place column isProperty
      simp at isProperty
    · intro i p fits isProperty
      simp at isProperty
    · simp [matchRenames, claims]
  | cons p properties ih =>
    by_cases one : ∃ column place, openColumns p free claimed = [(column, place)]
    · obtain ⟨column, place, one⟩ := one
      have only : (column, place) ∈ openColumns p free claimed := by simp [one]
      have fresh : (claimed ++ [place]).Nodup := by
        have unclaimed := (mem_openColumns.mp only).2.1
        simpa [List.nodup_append] using ⟨distinct, fun i listed same => unclaimed (same ▸ listed)⟩
      obtain ⟨verdicts, accounts, run⟩ := ih fresh
      refine ⟨.renamed place column :: verdicts, Accounts.cons accounts ?_ ?_, ?_⟩
      · rintro _ _ ⟨⟩
        exact one
      · rintro _ ⟨⟩
      · have opens : openTo p (flagged free claimed) = [⟨column, false⟩] := by
          rw [openTo_flagged, one, List.map_singleton]
        rw [matchRenames, opens, claim_flagged one]
        dsimp only
        rw [run, List.append_assoc]
        rfl
    · have several : (openColumns p free claimed).length ≠ 1 := by
        intro single
        obtain ⟨⟨column, place⟩, same⟩ := List.length_eq_one_iff.mp single
        exact one ⟨column, place, same⟩
      have open_length : (openTo p (flagged free claimed)).length = (openColumns p free claimed).length := by
        rw [openTo_flagged, List.length_map]
      obtain ⟨verdicts, accounts, run⟩ := ih distinct
      have unchanged : Accounts free (claimed ++ claims [.missing (openColumns p free claimed).length])
          properties verdicts := by
        rw [claims, List.filterMap_cons_none rfl, List.filterMap_nil, List.append_nil]
        exact accounts
      refine ⟨.missing (openColumns p free claimed).length :: verdicts,
        Accounts.cons unchanged ?_ ?_, ?_⟩
      · rintro _ _ ⟨⟩
      · rintro _ ⟨⟩
        exact ⟨rfl, several⟩
      · rw [matchRenames_missing o table (open_length ▸ several), run, open_length]
        rfl

end Steps

/-! ### All columns of a table -/

/-- The columns that are claimed, with their places. -/
def claimedColumns (free : List LiveColumn) (claimed : List Nat) : List (LiveColumn × Nat) :=
  free.zipIdx.filter fun c => claimed.contains c.2

section Claimed
variable {free : List LiveColumn} {claimed : List Nat}

theorem mem_claimedColumns {column : LiveColumn} {place : Nat} :
    (column, place) ∈ claimedColumns free claimed ↔ free[place]? = some column ∧ place ∈ claimed := by
  simp [claimedColumns, List.mem_zipIdx_iff_getElem?]

/-- The places of the claimed columns are those that are claimed, if each is claimed once and has a column. -/
theorem claimedColumns_places (distinct : claimed.Nodup) (placed : ∀ i ∈ claimed, ∃ column, free[i]? = some column) :
    ((claimedColumns free claimed).map Prod.snd).Perm claimed := by
  have indices : (free.zipIdx.map Prod.snd).Nodup := by
    rw [List.zipIdx_map_snd]
    exact List.nodup_range'
  apply (List.perm_ext_iff_of_nodup (indices.sublist (List.filter_sublist.map _)) distinct).mpr
  intro i
  constructor
  · intro found
    obtain ⟨⟨column, place⟩, member, rfl⟩ := List.mem_map.mp found
    exact (mem_claimedColumns.mp member).2
  · intro listed
    obtain ⟨column, there⟩ := placed i listed
    exact List.mem_map.mpr ⟨(column, i), mem_claimedColumns.mpr ⟨there, listed⟩, rfl⟩

theorem claimedColumns_columns : ((claimedColumns free claimed).map Prod.snd).filterMap (free[·]?) =
    (claimedColumns free claimed).map Prod.fst := by
  rw [List.filterMap_map, ← List.filterMap_eq_map]
  apply List.filterMap_congr
  rintro ⟨column, place⟩ member
  exact (mem_claimedColumns.mp member).1

/-- The columns at distinct places, with those that are at no such place, are all columns. -/
theorem claimed_perm (distinct : claimed.Nodup) (placed : ∀ i ∈ claimed, ∃ column, free[i]? = some column) :
    (claimed.filterMap (free[·]?) ++ unclaimed free claimed).Perm free := by
  have columns : (claimed.filterMap (free[·]?)).Perm ((claimedColumns free claimed).map Prod.fst) := by
    rw [← claimedColumns_columns]
    exact (claimedColumns_places distinct placed).symm.filterMap _
  have parted := (List.filter_append_perm (fun c => claimed.contains c.2) free.zipIdx).map Prod.fst
  rw [List.map_append, List.zipIdx_map_fst] at parted
  exact (columns.append_right _).trans parted

end Claimed

theorem unmatchedProperties_eq (o : Object) (live : LiveTable) :
    (o.properties.filter fun p => (live.column? p.name).isNone) = unmatchedProperties o live := by
  apply List.filter_congr
  intro p _
  rw [Bool.eq_iff_iff, Option.isNone_iff_eq_none, LiveTable.column?, List.find?_eq_none, decide_eq_true_iff]
  simp only [sameIgnoringCase_iff]

theorem unmatchedColumns_eq (o : Object) (live : LiveTable) :
    (live.columns.filter fun c => o.properties.all fun p => !Text.sameIgnoringCase p.name c.name) =
      unmatchedColumns o live := by
  refine List.filter_congr fun c _ => ?_
  rw [Bool.eq_iff_iff, List.all_eq_true, decide_eq_true_iff]
  simp only [Bool.not_eq_true', ← sameIgnoringCase_iff, Bool.not_eq_true]

/-- What the search reports, from its verdicts. -/
theorem columnDrift_eq (o : Object) (table : String) (live : LiveTable) :
    ∃ verdicts, Accounts (unmatchedColumns o live) [] (unmatchedProperties o live) verdicts ∧
      columnDrift o table live =
        List.zipWith (Verdict.event o table) (unmatchedProperties o live) verdicts ++
          (unclaimed (unmatchedColumns o live) (claims verdicts)).map (additionEvent o table) := by
  obtain ⟨verdicts, accounts, run⟩ : ∃ verdicts,
      Accounts (unmatchedColumns o live) [] (unmatchedProperties o live) verdicts ∧
      matchRenames o table (unmatchedProperties o live) (flagged (unmatchedColumns o live) []) =
        (List.zipWith (Verdict.event o table) (unmatchedProperties o live) verdicts,
          flagged (unmatchedColumns o live) ([] ++ claims verdicts)) :=
    matchRenames_accounts o table List.nodup_nil
  refine ⟨verdicts, accounts, ?_⟩
  have start : (unmatchedColumns o live).map (fun c => (⟨c, false⟩ : Candidate)) =
      flagged (unmatchedColumns o live) [] := flagged_nil.symm
  unfold columnDrift
  rw [unmatchedProperties_eq, unmatchedColumns_eq]
  change (matchRenames o table _ ((unmatchedColumns o live).map _)).1 ++
    ((matchRenames o table _ ((unmatchedColumns o live).map _)).2.filter _).map _ = _
  rw [start, run, List.nil_append, ← unclaimed_flagged, List.map_map]
  rfl

/-- The columns that properties have become and those that are not claimed are all columns. -/
theorem Accounts.columns_perm {free : List LiveColumn} {properties : List Property} {verdicts : List Verdict}
    (accounts : Accounts free [] properties verdicts) :
    (verdicts.filterMap Verdict.column? ++ unclaimed free (claims verdicts)).Perm free := by
  have placed : ∀ place column, .renamed place column ∈ verdicts → free[place]? = some column := by
    intro place column member
    obtain ⟨i, inside, isVerdict⟩ := List.mem_iff_getElem.mp member
    have isProperty := List.getElem?_eq_getElem (accounts.each ▸ inside : i < properties.length)
    exact (accounts.renamed i _ place column isProperty (List.getElem?_eq_some_iff.mpr ⟨inside, isVerdict⟩)).1
  have columns : verdicts.filterMap Verdict.column? = (claims verdicts).filterMap (free[·]?) := by
    rw [claims, List.filterMap_filterMap]
    apply List.filterMap_congr
    intro verdict member
    cases verdict with
    | renamed place column => exact (placed place column member).symm
    | missing fits => rfl
  rw [columns]
  apply claimed_perm accounts.once
  intro i listed
  obtain ⟨verdict, member, isClaim⟩ := List.mem_filterMap.mp listed
  cases verdict with
  | renamed place column =>
    obtain rfl : place = i := Option.some.inj isClaim
    exact ⟨column, placed place column member⟩
  | missing fits => cases isClaim

/-- Nothing is reported exactly if nothing is without its counterpart. -/
theorem columnDrift_eq_nil (o : Object) (table : String) (live : LiveTable) :
    columnDrift o table live = [] ↔ unmatchedProperties o live = [] ∧ unmatchedColumns o live = [] := by
  obtain ⟨verdicts, accounts, run⟩ := columnDrift_eq o table live
  rw [run]
  constructor
  · intro silent
    obtain ⟨noVerdict, noneAdded⟩ := List.append_eq_nil_iff.mp silent
    have noProperty : unmatchedProperties o live = [] := by
      rcases List.zipWith_eq_nil_iff.mp noVerdict with nothing | nothing
      · exact nothing
      · exact List.eq_nil_of_length_eq_zero (accounts.each ▸ nothing ▸ rfl)
    have noVerdicts : verdicts = [] := by
      apply List.eq_nil_of_length_eq_zero
      rw [accounts.each, noProperty, List.length_nil]
    refine ⟨noProperty, ?_⟩
    have nothingLeft := List.map_eq_nil_iff.mp noneAdded
    simpa [unclaimed, noVerdicts, claims] using nothingLeft
  · rintro ⟨noProperty, noColumn⟩
    simp [noProperty, noColumn, unclaimed]

theorem unmatchedProperties_eq_nil {o : Object} {live : LiveTable} : unmatchedProperties o live = [] ↔
    ∀ p ∈ o.properties, ∃ c ∈ live.columns, SameName c.name p.name := by
  simp [unmatchedProperties, List.filter_eq_nil_iff]

theorem unmatchedColumns_eq_nil {o : Object} {live : LiveTable} : unmatchedColumns o live = [] ↔
    ∀ c ∈ live.columns, ∃ p ∈ o.properties, SameName p.name c.name := by
  simp [unmatchedColumns, List.filter_eq_nil_iff]

/-- Where an object has a table, there is a verdict on each property without a column. What is reported are the
verdicts in the order of the properties and then, in the order of the table, the columns without a property
that no verdict claims. Every such column is reported once. Nothing is reported exactly if there is a column for
each property and a property for each column. -/
theorem columns_accounted (ontology : Ontology) (provider : Provider) (database schema : Option String) (o : Object)
    (placeDatabase placeSchema : String) (live : LiveTable)
    (inDatabase : (ontology.physicalDatabase? o <|> database) = some placeDatabase)
    (inSchema : (ontology.physicalSchema? o <|> schema) = some placeSchema)
    (answered : provider.table? placeDatabase placeSchema (ontology.physicalTable o) = .ok (some live)) :
    (∃ verdicts, Accounts (unmatchedColumns o live) [] (unmatchedProperties o live) verdicts ∧
      (verdicts.filterMap Verdict.column? ++ unclaimed (unmatchedColumns o live) (claims verdicts)).Perm
        (unmatchedColumns o live) ∧
      objectDrift ontology provider database schema o = .ok
        (List.zipWith (Verdict.event o (ontology.physicalTable o)) (unmatchedProperties o live) verdicts ++
          (unclaimed (unmatchedColumns o live) (claims verdicts)).map (additionEvent o (ontology.physicalTable o)))) ∧
    (objectDrift ontology provider database schema o = .ok [] ↔
      (∀ p ∈ o.properties, ∃ c ∈ live.columns, SameName c.name p.name) ∧
      (∀ c ∈ live.columns, ∃ p ∈ o.properties, SameName p.name c.name)) := by
  have searched : objectDrift ontology provider database schema o =
      .ok (columnDrift o (ontology.physicalTable o) live) := by
    unfold objectDrift
    simp only [inDatabase, inSchema, answered]
  rw [searched]
  constructor
  · obtain ⟨verdicts, accounts, reported⟩ := columnDrift_eq o (ontology.physicalTable o) live
    exact ⟨verdicts, accounts, accounts.columns_perm, congrArg Except.ok reported⟩
  · rw [← unmatchedProperties_eq_nil, ← unmatchedColumns_eq_nil, ← columnDrift_eq_nil o (ontology.physicalTable o) live]
    constructor
    · exact Except.ok.inj
    · exact congrArg Except.ok

/-- Orders of which the quantity, the total and the name have no columns of these names. -/
def soldOrders : Object where
  name := "Order"
  description := ""
  identifiers := ["id"]
  properties := [("id", .integer), ("total", .decimal), ("quantity", .integer), ("name", .string)].map
    fun (name, type) => ⟨name, type, "", true, false⟩
  table := none
  schema := none
  database := none

/-- The table of the orders. -/
def ordersTable : LiveTable where
  database := "DB"
  schema := "PUBLIC"
  table := "order"
  columns := [("ID", "NUMBER"), ("NOTE", "VARCHAR"), ("AMOUNT", "NUMBER(12,2)"), ("LABEL", "TEXT"),
    ("PLACED", "TIMESTAMP_NTZ")].map fun (name, type) => ⟨name, type, true⟩

/-- The orders in an ontology without a mapping. -/
def soldOntology : Ontology where
  version := "1.0.0"
  name := "sales"
  description := ""
  objects := [soldOrders]
  relationships := []
  metrics := []
  dimensions := []
  mapping := none

/-- A warehouse with the table of the orders only. -/
def ordersWarehouse : Provider := (Catalog.empty.addTable ordersTable).provider

/-- The total has become the amount, which the quantity can then not become; two columns could be the name. -/
theorem sold_orders_accounted :
    (soldOntology.physicalDatabase? soldOrders <|> some "DB") = some "DB" ∧
    (soldOntology.physicalSchema? soldOrders <|> some "PUBLIC") = some "PUBLIC" ∧
    ordersWarehouse.table? "DB" "PUBLIC" (soldOntology.physicalTable soldOrders) = .ok (some ordersTable) ∧
    (∃ verdicts, Accounts (unmatchedColumns soldOrders ordersTable) [] (unmatchedProperties soldOrders ordersTable)
        verdicts ∧
      (verdicts.filterMap Verdict.column? ++ unclaimed (unmatchedColumns soldOrders ordersTable) (claims verdicts)).Perm
        (unmatchedColumns soldOrders ordersTable) ∧
      objectDrift soldOntology ordersWarehouse (some "DB") (some "PUBLIC") soldOrders = .ok
        (List.zipWith (Verdict.event soldOrders "order") (unmatchedProperties soldOrders ordersTable) verdicts ++
          (unclaimed (unmatchedColumns soldOrders ordersTable) (claims verdicts)).map
            (additionEvent soldOrders "order"))) ∧
    (objectDrift soldOntology ordersWarehouse (some "DB") (some "PUBLIC") soldOrders).map (·.map (·.kind)) =
      .ok [.columnRenamed, .columnMissing, .columnMissing, .columnAdded, .columnAdded, .columnAdded] ∧
    objectDrift soldOntology ordersWarehouse (some "DB") (some "PUBLIC") soldOrders ≠ .ok [] := by
  have inDatabase : (soldOntology.physicalDatabase? soldOrders <|> some "DB") = some "DB" := rfl
  have inSchema : (soldOntology.physicalSchema? soldOrders <|> some "PUBLIC") = some "PUBLIC" := rfl
  have answered : ordersWarehouse.table? "DB" "PUBLIC" (soldOntology.physicalTable soldOrders) =
    .ok (some ordersTable) := rfl
  obtain ⟨accounted, silent_iff⟩ := columns_accounted soldOntology ordersWarehouse (some "DB") (some "PUBLIC")
    soldOrders "DB" "PUBLIC" ordersTable inDatabase inSchema answered
  refine ⟨inDatabase, inSchema, answered, accounted, rfl, ?_⟩
  rw [Ne, silent_iff]
  decide

end SemanticLayer.Drift
