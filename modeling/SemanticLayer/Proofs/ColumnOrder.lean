import SemanticLayer.Proofs.ColumnAccounts

/-! The order in which a warehouse gives the columns of a table does not matter. One property after the other is
looked at, and what is said of it depends only on which columns are open to it: where there is one, it is the
same one in every order. So two searches whose candidates are the same but for their order keep step
(`search_reordered`), and only the columns that are reported as added follow the order of the table. Main
statement: `columns_in_any_order`. -/
namespace SemanticLayer.Drift

/-! ### Outcomes -/

/-- Outcomes that are the same error, or results in a relation. -/
@[mk_iff]
inductive SameOutcome {ε α β : Type} (R : α → β → Prop) : Except ε α → Except ε β → Prop
  | error (e : ε) : SameOutcome R (.error e) (.error e)
  | ok {a : α} {b : β} (related : R a b) : SameOutcome R (.ok a) (.ok b)

namespace SameOutcome
variable {ε α β γ δ : Type}

@[simp] theorem ok_iff {R : α → β → Prop} {a : α} {b : β} :
    SameOutcome (ε := ε) R (.ok a) (.ok b) ↔ R a b := by
  simp [sameOutcome_iff]

@[simp] theorem error_iff {R : α → β → Prop} {e : ε} {r : Except ε β} :
    SameOutcome R (.error e) r ↔ r = .error e := by
  simp [sameOutcome_iff]

theorem refl {R : α → α → Prop} (kept : ∀ a, R a a) (r : Except ε α) : SameOutcome R r r := by
  cases r with
  | error e => exact .error e
  | ok a => exact .ok (kept a)

theorem map {R : α → β → Prop} {S : γ → δ → Prop} {f : α → γ} {g : β → δ} {r : Except ε α} {s : Except ε β}
    (same : SameOutcome R r s) (keeps : ∀ a b, R a b → S (f a) (g b)) : SameOutcome S (r.map f) (s.map g) := by
  cases same with
  | error e => exact .error e
  | ok related => exact .ok (keeps _ _ related)

/-- Of two lists whose members have the same outcomes, both fail at the same member or none does. -/
theorem mapM {R : γ → δ → Prop} {f : α → Except ε γ} {g : β → Except ε δ} {xs : List α} {ys : List β}
    (each : List.Forall₂ (fun x y => SameOutcome R (f x) (g y)) xs ys) :
    SameOutcome (List.Forall₂ R) (xs.mapM f) (ys.mapM g) := by
  induction each with
  | nil => exact .ok .nil
  | cons first _ ih =>
    rw [List.mapM_cons, List.mapM_cons]
    rcases (sameOutcome_iff ..).mp first with ⟨e, failed, failedToo⟩ | ⟨a, b, related, found, foundToo⟩
    · rw [failed, failedToo]
      exact .error e
    · rw [found, foundToo]
      rcases (sameOutcome_iff ..).mp ih with ⟨e, failed, failedToo⟩ | ⟨as, bs, others, found, foundToo⟩
      · rw [failed, failedToo]
        exact .error e
      · rw [found, foundToo]
        exact .ok (.cons related others)

end SameOutcome

/-! ### One property after the other -/

/-- What is reported of a property that some columns are open to. -/
def reportOf (o : Object) (table : String) (p : Property) : List Candidate → DriftEvent
  | [only] => renamed o table p only.column
  | fits => missing o table p fits.length

/-- The candidates after a property is looked at. -/
def settle (p : Property) (candidates : List Candidate) : List Candidate :=
  if (openTo p candidates).length = 1 then claim p candidates else candidates

/-- What is reported when some properties are still to be looked at and these candidates are left. -/
def search (o : Object) (table : String) (properties : List Property) (candidates : List Candidate) :
    List DriftEvent :=
  let (events, candidates) := matchRenames o table properties candidates
  events ++ (candidates.filter (!·.claimed)).map fun c => added o table c.column

section Steps
variable {o : Object} {table : String} {p : Property} {properties : List Property}
  {candidates others fits : List Candidate}

theorem reportOf_several (several : fits.length ≠ 1) : reportOf o table p fits = missing o table p fits.length := by
  unfold reportOf
  split
  · exact absurd rfl several
  · rfl

@[simp] theorem search_nil : search o table [] candidates =
    (candidates.filter (!·.claimed)).map fun c => added o table c.column := rfl

/-- The step of a search. -/
theorem search_cons : search o table (p :: properties) candidates =
    reportOf o table p (openTo p candidates) :: search o table properties (settle p candidates) := by
  by_cases one : (openTo p candidates).length = 1
  · obtain ⟨only, single⟩ := List.length_eq_one_iff.mp one
    rw [settle, if_pos one, single]
    simp only [search, matchRenames, single]
    rfl
  · rw [settle, if_neg one, reportOf_several one]
    simp only [search, matchRenames_missing o table one]
    rfl

theorem reportOf_perm (same : candidates.Perm others) :
    reportOf o table p (openTo p candidates) = reportOf o table p (openTo p others) := by
  have opens : (openTo p candidates).Perm (openTo p others) := same.filter _
  by_cases one : (openTo p candidates).length = 1
  · obtain ⟨only, single⟩ := List.length_eq_one_iff.mp one
    rw [single] at opens ⊢
    rw [List.singleton_perm.mp opens]
  · rw [reportOf_several one, reportOf_several (opens.length_eq ▸ one), opens.length_eq]

theorem settle_perm (same : candidates.Perm others) : (settle p candidates).Perm (settle p others) := by
  have opens : (openTo p candidates).Perm (openTo p others) := same.filter _
  unfold settle
  rw [opens.length_eq]
  split
  · exact same.map _
  · exact same

theorem reportOf_kind : (reportOf o table p fits).kind ≠ .columnAdded := by
  unfold reportOf
  split
  · exact nofun
  · exact nofun

end Steps

/-- Reports of an object that differ at most in the order of the columns that are added, which come last. -/
inductive SameReport : List DriftEvent → List DriftEvent → Prop
  | of {found added addedToo : List DriftEvent} (properties : ∀ e ∈ found, e.kind ≠ .columnAdded)
      (columns : ∀ e ∈ added, e.kind = .columnAdded) (reordered : added.Perm addedToo) :
      SameReport (found ++ added) (found ++ addedToo)

namespace SameReport

theorem refl_of_other {events : List DriftEvent} (others : ∀ e ∈ events, e.kind ≠ .columnAdded) :
    SameReport events events := by
  have same := of others (List.forall_mem_nil _) (List.Perm.refl [])
  rwa [List.append_nil] at same

theorem cons {e : DriftEvent} {events eventsToo : List DriftEvent} (other : e.kind ≠ .columnAdded)
    (same : SameReport events eventsToo) : SameReport (e :: events) (e :: eventsToo) := by
  obtain ⟨others, columns, reordered⟩ := same
  exact of (List.forall_mem_cons.mpr ⟨other, others⟩) columns reordered

theorem perm {events eventsToo : List DriftEvent} (same : SameReport events eventsToo) : events.Perm eventsToo := by
  obtain ⟨_, _, reordered⟩ := same
  exact reordered.append_left _

end SameReport

/-- Searches among the same candidates keep step, whatever the order of the candidates. -/
theorem search_reordered {o : Object} {table : String} {properties : List Property}
    {candidates others : List Candidate} (same : candidates.Perm others) :
    SameReport (search o table properties candidates) (search o table properties others) := by
  induction properties generalizing candidates others with
  | nil =>
    rw [search_nil, search_nil]
    apply SameReport.of (List.forall_mem_nil _) _ ((same.filter _).map _)
    intro e listed
    obtain ⟨c, _, rfl⟩ := List.mem_map.mp listed
    rfl
  | cons p properties ih =>
    rw [search_cons, search_cons, reportOf_perm same]
    exact (ih (settle_perm same)).cons reportOf_kind

/-! ### Tables and objects -/

/-- Tables of the same name that differ at most in the order of their columns. -/
inductive SameTable : LiveTable → LiveTable → Prop
  | of {t : LiveTable} {columns : List LiveColumn} (reordered : t.columns.Perm columns) :
      SameTable t { t with columns }

/-- Candidates of which none is claimed. -/
def fresh (free : List LiveColumn) : List Candidate := free.map fun c => ⟨c, false⟩

theorem columnDrift_search (o : Object) (table : String) (live : LiveTable) : columnDrift o table live =
    search o table (unmatchedProperties o live) (fresh (unmatchedColumns o live)) := by
  unfold columnDrift
  rw [unmatchedProperties_eq, unmatchedColumns_eq]
  rfl

theorem columnDrift_reordered (o : Object) (table : String) {live liveToo : LiveTable}
    (same : SameTable live liveToo) : SameReport (columnDrift o table live) (columnDrift o table liveToo) := by
  obtain ⟨reordered⟩ := same
  rename_i columns
  have properties : unmatchedProperties o { live with columns } = unmatchedProperties o live := by
    apply List.filter_congr
    intro p _
    exact decide_eq_decide.mpr (forall_congr' fun _ => imp_congr_left reordered.symm.mem_iff)
  have free : (fresh (unmatchedColumns o live)).Perm (fresh (unmatchedColumns o { live with columns })) :=
    (reordered.filter _).map _
  rw [columnDrift_search, columnDrift_search, properties]
  exact search_reordered free

/-- Warehouses that give the same answers about tables, but for the order of their columns. -/
def SameTables (provider other : Provider) : Prop :=
  ∀ database schema table, SameOutcome (Option.Rel SameTable) (provider.table? database schema table)
    (other.table? database schema table)

section Objects
variable (ontology : Ontology) (database schema : Option String) {provider other : Provider}

theorem objectDrift_reordered (same : SameTables provider other) (o : Object) :
    SameOutcome SameReport (objectDrift ontology provider database schema o)
      (objectDrift ontology other database schema o) := by
  unfold objectDrift
  dsimp only
  split
  · next d s _ _ =>
    rcases (sameOutcome_iff ..).mp (same d s (ontology.physicalTable o)) with
      ⟨e, failed, failedToo⟩ | ⟨found, foundToo, related, answered, answeredToo⟩
    · rw [failed, failedToo]
      exact .error e
    · rw [answered, answeredToo]
      cases related with
      | none => exact .ok (.refl_of_other (List.forall_mem_singleton.mpr nofun))
      | some table => exact .ok (columnDrift_reordered o _ table)
  · exact .ok (.refl_of_other (List.forall_mem_singleton.mpr nofun))

/-- The reports of the objects, in their order. -/
def objectReports (provider : Provider) : Except ProviderError (List (List DriftEvent)) :=
  ontology.objects.mapM (objectDrift ontology provider database schema)

/-- All differences are the reports of the objects, one after the other. -/
theorem mappingDrift_eq (provider : Provider) : mappingDrift ontology provider database schema =
    (objectReports ontology database schema provider).map List.flatten := by
  unfold mappingDrift objectReports
  cases ontology.objects.mapM (objectDrift ontology provider database schema) <;> rfl

/-- If two warehouses have the same tables but for the order of their columns, the same is reported of each object,
but for the order of the columns that are added, and so the same altogether but for the order; or both searches
fail with the same error. -/
theorem columns_in_any_order (same : SameTables provider other) :
    SameOutcome (List.Forall₂ SameReport) (objectReports ontology database schema provider)
      (objectReports ontology database schema other) ∧
    SameOutcome List.Perm (mappingDrift ontology provider database schema)
      (mappingDrift ontology other database schema) := by
  have each : SameOutcome (List.Forall₂ SameReport) (objectReports ontology database schema provider)
      (objectReports ontology database schema other) := by
    apply SameOutcome.mapM
    exact List.forall₂_same.mpr fun o _ => objectDrift_reordered ontology database schema same o
  refine ⟨each, ?_⟩
  rw [mappingDrift_eq, mappingDrift_eq]
  apply each.map
  intro reports reportsToo alike
  exact List.Perm.flatten_congr (alike.imp fun _ _ => SameReport.perm)

end Objects

/-- The warehouse of the orders, of which the columns of the table stand in the other direction. -/
def turnedWarehouse : Provider :=
  (Catalog.empty.addTable { ordersTable with columns := ordersTable.columns.reverse }).provider

/-- Whichever comes first, the amount is what the total has become; the added columns are listed as they come. -/
theorem turned_orders_alike : SameTables ordersWarehouse turnedWarehouse ∧
    SameOutcome (List.Forall₂ SameReport)
      (objectReports soldOntology (some "DB") (some "PUBLIC") ordersWarehouse)
      (objectReports soldOntology (some "DB") (some "PUBLIC") turnedWarehouse) ∧
    SameOutcome List.Perm (mappingDrift soldOntology ordersWarehouse (some "DB") (some "PUBLIC"))
      (mappingDrift soldOntology turnedWarehouse (some "DB") (some "PUBLIC")) ∧
    (mappingDrift soldOntology ordersWarehouse (some "DB") (some "PUBLIC")).map (·.map (·.element)) =
      .ok ["Order.total", "Order.quantity", "Order.name", "Order.NOTE", "Order.LABEL", "Order.PLACED"] ∧
    (mappingDrift soldOntology turnedWarehouse (some "DB") (some "PUBLIC")).map (·.map (·.element)) =
      .ok ["Order.total", "Order.quantity", "Order.name", "Order.PLACED", "Order.LABEL", "Order.NOTE"] := by
  have same : SameTables ordersWarehouse turnedWarehouse := by
    intro database schema table
    simp only [ordersWarehouse, turnedWarehouse, Catalog.provider, Catalog.addTable, Catalog.empty,
      Catalog.answer, Keyed.insert, Keyed.get?]
    split
    · exact .ok (.some (.of (List.reverse_perm _).symm))
    · exact .ok .none
  obtain ⟨each, all⟩ := columns_in_any_order soldOntology (some "DB") (some "PUBLIC") same
  exact ⟨same, each, all, rfl, rfl⟩

end SemanticLayer.Drift
