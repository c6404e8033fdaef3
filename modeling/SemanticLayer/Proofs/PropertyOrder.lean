import SemanticLayer.Proofs.CanonicalText
import SemanticLayer.Proofs.ColumnOrder

/-! When the order in which objects declare their properties matters. A column can be the new name of one property
only. So where a property could have become one column and another property could have become it too, the one that is
looked at first decides what is said of both (`contested_orders`). Where no column is contested, looking at a property
changes nothing for the others (`openTo_settle`), and neighbours can change places (`search_any_order`). Main
statement: `property_order_irrelevant_iff`. -/
namespace SemanticLayer

/-- The same object with its properties in another order. -/
def Object.Reordered (o other : Object) : Prop :=
  ∃ properties, o.properties.Perm properties ∧ other = { o with properties }

/-- The same ontology with the properties of its objects in another order. -/
def Ontology.PropertiesReordered (ontology other : Ontology) : Prop :=
  ∃ objects, List.Forall₂ Object.Reordered ontology.objects objects ∧ other = { ontology with objects }

namespace Drift

/-! ### What a property leaves to the others -/

/-- Properties of the same name and type, of which the same is said in each other's place. -/
def Twins (p q : Property) : Prop := p.name = q.name ∧ p.type = q.type

section Steps
variable {o : Object} {table : String} {p q : Property} {candidates : List Candidate} {c : Candidate}

theorem mem_openTo : c ∈ openTo p candidates ↔ c ∈ candidates ∧ c.claimed = false ∧ canHold p c.column = true := by
  simp [openTo]

/-- Of the columns that are open to a property, another one claims those that it could have become. -/
theorem openTo_claim : openTo q (claim p candidates) =
    (openTo q candidates).filter fun c => !canHold p c.column := by
  induction candidates with
  | nil => simp [openTo, claim]
  | cons c rest ih =>
    unfold openTo claim at ih ⊢
    rw [List.map_cons, List.filter_cons, ih]
    cases claimed : c.claimed <;> cases first : canHold p c.column <;> cases second : canHold q c.column <;>
      simp [claimed, first, second]

theorem claim_comm : claim p (claim q candidates) = claim q (claim p candidates) := by
  unfold claim
  rw [List.map_map, List.map_map]
  apply List.map_congr_left
  intro c _
  cases claimed : c.claimed <;> cases first : canHold p c.column <;> cases second : canHold q c.column <;>
    simp [claimed, first, second]

/-- What is open to two properties alike is claimed by either. -/
theorem claim_congr (same : openTo p candidates = openTo q candidates) : claim p candidates = claim q candidates := by
  unfold claim
  apply List.map_congr_left
  intro c listed
  have open_iff : c.claimed = false ∧ canHold p c.column = true ↔ c.claimed = false ∧ canHold q c.column = true := by
    have mem := iff_of_eq (congrArg (c ∈ ·) same)
    simpa only [mem_openTo, listed, true_and] using mem
  simp only [Bool.and_eq_true, Bool.not_eq_true', open_iff]

theorem openTo_settle_length : (openTo q (settle p candidates)).length ≤ (openTo q candidates).length := by
  unfold settle
  split
  · rw [openTo_claim]
    exact List.length_filter_le _ _
  · exact le_rfl

/-- The only column that a property could have become could not be another one, or there is no such column. -/
def Apart (candidates : List Candidate) (p q : Property) : Prop :=
  ∀ only, openTo p candidates = [only] → canHold q only.column = false

theorem openTo_settle (apart : Apart candidates p q) : openTo q (settle p candidates) = openTo q candidates := by
  unfold settle
  split
  · next one =>
    obtain ⟨only, single⟩ := List.length_eq_one_iff.mp one
    rw [openTo_claim, List.filter_eq_self]
    intro c isOpen
    obtain ⟨listed, unclaimed, fits⟩ := mem_openTo.mp isOpen
    rw [Bool.not_eq_true']
    by_contra held
    have found : c ∈ openTo p candidates := mem_openTo.mpr ⟨listed, unclaimed, Bool.eq_true_of_not_eq_false held⟩
    rw [single, List.mem_singleton] at found
    rw [found, apart only single] at fits
    cases fits
  · rfl

theorem settle_comm (apart : Apart candidates p q) (apartToo : Apart candidates q p) :
    settle p (settle q candidates) = settle q (settle p candidates) := by
  have first : settle p (settle q candidates) =
      if (openTo p candidates).length = 1 then claim p (settle q candidates) else settle q candidates := by
    rw [settle, openTo_settle apartToo]
  have second : settle q (settle p candidates) =
      if (openTo q candidates).length = 1 then claim q (settle p candidates) else settle p candidates := by
    rw [settle, openTo_settle apart]
  rw [first, second, settle, settle]
  by_cases one : (openTo p candidates).length = 1
  · by_cases oneToo : (openTo q candidates).length = 1
    · rw [if_pos one, if_pos one, if_pos oneToo, if_pos oneToo, claim_comm]
    · rw [if_pos one, if_pos one, if_neg oneToo, if_neg oneToo]
  · rw [if_neg one, if_neg one]

namespace Twins

theorem symm (twins : Twins p q) : Twins q p := ⟨twins.1.symm, twins.2.symm⟩

theorem canHold_eq (twins : Twins p q) : canHold p = canHold q := by
  funext c
  unfold canHold
  rw [twins.2]

theorem openTo_eq (twins : Twins p q) : openTo p = openTo q := by
  funext candidates
  unfold openTo
  rw [twins.canHold_eq]

theorem settle_eq (twins : Twins p q) : settle p = settle q := by
  funext candidates
  unfold settle claim
  rw [twins.openTo_eq, twins.canHold_eq]

theorem reportOf_eq (twins : Twins p q) : reportOf o table p = reportOf o table q := by
  funext fits
  unfold reportOf renamed missing
  rw [twins.1, twins.2]

end Twins

theorem missing_twins {n m : Nat} (same : missing o table p n = missing o table q m) : Twins p q ∧ n = m := by
  have elements : o.name ++ "." ++ p.name = o.name ++ "." ++ q.name := congrArg DriftEvent.element same
  have details := congrArg DriftEvent.details same
  simp only [missing, Json.ofNat, Json.obj.injEq, List.cons.injEq, Prod.mk.injEq, Json.str.injEq, Json.int.injEq,
    Int.natCast_inj, true_and, and_true] at details
  have type : p.type = q.type := PropertyType.toJson_injective (congrArg Json.str details.1)
  exact ⟨⟨(String.append_right_inj _).mp elements, type⟩, details.2⟩

end Steps

/-! ### Searches in another order -/

/-- No column that a property could have become is the only one, unless no other property could have become it. -/
def Uncontested (candidates : List Candidate) (properties : List Property) : Prop :=
  ∀ p ∈ properties, ∀ q ∈ properties, ¬ Twins p q → Apart candidates p q

section Searches
variable {o : Object} {table : String} {p q : Property} {properties others rest : List Property}
  {candidates : List Candidate} {only : Candidate}

theorem Uncontested.of_perm (calm : Uncontested candidates properties) (perm : properties.Perm others) :
    Uncontested candidates others :=
  fun p listed q listedToo => calm p (perm.mem_iff.mpr listed) q (perm.mem_iff.mpr listedToo)

/-- Looking at a property brings no column into contention. -/
theorem Uncontested.settle (calm : Uncontested candidates (p :: properties)) :
    Uncontested (settle p candidates) properties := by
  intro r listed q listedToo different only single
  have before : Apart candidates r q :=
    calm r (List.mem_cons_of_mem p listed) q (List.mem_cons_of_mem p listedToo) different
  by_cases twins : Twins p r
  · rw [← twins.openTo_eq] at single
    by_cases one : (openTo p candidates).length = 1
    · -- The column of the first of two twins is gone for the second.
      have gone : openTo p (claim p candidates) = [] := by
        rw [openTo_claim, List.filter_eq_nil_iff]
        intro c isOpen
        simp [(mem_openTo.mp isOpen).2.2]
      rw [Drift.settle, if_pos one, gone] at single
      cases single
    · rw [Drift.settle, if_neg one, twins.openTo_eq] at single
      exact before only single
  · have apart : Apart candidates p r := calm p List.mem_cons_self r (List.mem_cons_of_mem p listed) twins
    rw [openTo_settle apart] at single
    exact before only single

/-- Where no column is contested, the order of the properties does not matter. -/
theorem search_any_order (perm : properties.Perm others) (calm : Uncontested candidates properties) :
    (search o table properties candidates).Perm (search o table others candidates) := by
  induction perm generalizing candidates with
  | nil => exact List.Perm.refl _
  | cons p _ ih =>
    rw [search_cons, search_cons]
    exact (ih calm.settle).cons _
  | swap q p rest =>
    rw [search_cons, search_cons, search_cons, search_cons]
    by_cases twins : Twins p q
    · rw [twins.reportOf_eq, twins.settle_eq, twins.openTo_eq]
    · have first : p ∈ p :: q :: rest := List.mem_cons_self
      have second : q ∈ p :: q :: rest := List.mem_cons_of_mem p List.mem_cons_self
      have apart : Apart candidates p q := calm p first q second twins
      have apartToo : Apart candidates q p := calm q second p first fun same => twins same.symm
      rw [openTo_settle apart, openTo_settle apartToo, settle_comm apart apartToo]
      exact List.Perm.swap _ _ _
  | trans first _ ih ihToo => exact (ih calm).trans (ihToo (calm.of_perm first))

/-- A property is said to have no more columns to choose from than were open to it at the start. -/
theorem missing_bound {fits : Nat} (listed : missing o table q fits ∈ search o table properties candidates) :
    fits ≤ (openTo q candidates).length := by
  induction properties generalizing candidates with
  | nil =>
    rw [search_nil] at listed
    obtain ⟨c, _, same⟩ := List.mem_map.mp listed
    cases congrArg DriftEvent.kind same
  | cons p properties ih =>
    rw [search_cons, List.mem_cons] at listed
    rcases listed with here | later
    · by_cases one : (openTo p candidates).length = 1
      · obtain ⟨only, single⟩ := List.length_eq_one_iff.mp one
        rw [single] at here
        cases congrArg DriftEvent.kind here
      · rw [reportOf_several one] at here
        obtain ⟨twins, same⟩ := missing_twins here
        rw [same, twins.openTo_eq]
    · exact (ih later).trans openTo_settle_length

/-- The step of a search at a property that could have become one column. -/
theorem search_renamed (single : openTo p candidates = [only]) : search o table (p :: rest) candidates =
    renamed o table p only.column :: search o table rest (claim p candidates) := by
  rw [search_cons, settle, single, if_pos (List.length_singleton ..)]
  rfl

/-- The step of a search at a property that is missing. -/
theorem search_missing (several : (openTo p candidates).length ≠ 1) : search o table (p :: rest) candidates =
    missing o table p (openTo p candidates).length :: search o table rest candidates := by
  rw [search_cons, settle, if_neg several, reportOf_several several]

/-- Of two properties that could have become the same one column, the first is renamed and the other is missing. -/
theorem contenders_differ (different : ¬ Twins p q) (single : openTo p candidates = [only])
    (singleToo : openTo q candidates = [only]) :
    ¬ (search o table (p :: q :: rest) candidates).Perm (search o table (q :: p :: rest) candidates) := by
  intro same
  have fits : canHold p only.column = true := (mem_openTo.mp (single ▸ List.mem_singleton_self only)).2.2
  have fitsToo : canHold q only.column = true := (mem_openTo.mp (singleToo ▸ List.mem_singleton_self only)).2.2
  have none : openTo q (claim p candidates) = [] := by simp [openTo_claim, singleToo, fits]
  have noneToo : openTo p (claim q candidates) = [] := by simp [openTo_claim, single, fitsToo]
  rw [search_renamed single, search_renamed singleToo, search_missing (by simp [none]),
    search_missing (by simp [noneToo]), none, noneToo, claim_congr (single.trans singleToo.symm)] at same
  -- The rest of both searches is the same.
  have pair : [renamed o table p only.column, missing o table q 0].Perm
      [renamed o table q only.column, missing o table p 0] := (List.perm_append_right_iff _).mp same
  have listed : missing o table q 0 ∈ [renamed o table q only.column, missing o table p 0] :=
    pair.mem_iff.mp (List.mem_cons_of_mem _ List.mem_cons_self)
  rw [List.mem_cons, List.mem_singleton] at listed
  rcases listed with wrong | same
  · cases congrArg DriftEvent.kind wrong
  · exact different (missing_twins same).1.symm

/-- Of two properties that contend for a column, the one that is looked at first decides. -/
theorem contested_differ (different : ¬ Twins p q) (single : openTo p candidates = [only])
    (fitsToo : canHold q only.column = true) :
    ¬ (search o table (p :: q :: rest) candidates).Perm (search o table (q :: p :: rest) candidates) := by
  obtain ⟨listed, unclaimed, fits⟩ := mem_openTo.mp (single ▸ List.mem_singleton_self only)
  have isOpen : only ∈ openTo q candidates := mem_openTo.mpr ⟨listed, unclaimed, fitsToo⟩
  by_cases one : (openTo q candidates).length = 1
  · obtain ⟨c, singleToo⟩ := List.length_eq_one_iff.mp one
    obtain rfl : only = c := List.mem_singleton.mp (singleToo ▸ isOpen)
    exact contenders_differ different single singleToo
  · intro same
    rw [search_renamed single, search_missing one] at same
    -- Only the search that looks at the other property first finds all columns that it could have become.
    have fewer : (openTo q (claim p candidates)).length < (openTo q candidates).length := by
      rw [openTo_claim]
      exact List.length_filter_lt_length_iff_exists.mpr ⟨only, isOpen, by simp [fits]⟩
    rcases List.mem_cons.mp (same.mem_iff.mpr List.mem_cons_self) with wrong | found
    · cases congrArg DriftEvent.kind wrong
    · exact absurd (missing_bound found) (Nat.not_le.mpr fewer)

end Searches

/-! ### Objects -/

/-- Two properties contend for a column that has the name of no property: it is the only one that the first could have
become, and the other could have become it too. -/
def Contested (o : Object) (live : LiveTable) : Prop :=
  ∃ p ∈ unmatchedProperties o live, ∃ q ∈ unmatchedProperties o live, ¬ Twins p q ∧
    ∃ column, (unmatchedColumns o live).filter (canHold p) = [column] ∧ canHold q column = true

section Objects
variable {o : Object} {table : String} {live : LiveTable} {properties : List Property}

theorem openTo_fresh (p : Property) (free : List LiveColumn) :
    openTo p (fresh free) = fresh (free.filter (canHold p)) := by
  simp [openTo, fresh, List.filter_map, Function.comp_def]

theorem uncontested_iff : Uncontested (fresh (unmatchedColumns o live)) (unmatchedProperties o live) ↔
    ¬ Contested o live := by
  constructor
  · rintro calm ⟨p, listed, q, listedToo, different, column, single, fits⟩
    have apart := calm p listed q listedToo different ⟨column, false⟩ (by rw [openTo_fresh, single]; rfl)
    cases fits.symm.trans apart
  · intro none p listed q listedToo different only single
    rw [openTo_fresh, fresh, List.map_eq_singleton_iff] at single
    obtain ⟨column, single, rfl⟩ := single
    by_contra fits
    exact none ⟨p, listed, q, listedToo, different, column, single, Bool.eq_true_of_not_eq_false fits⟩

/-- A search speaks of an object by its name only. -/
theorem search_object (others : List Property) (candidates : List Candidate) :
    search { o with properties } table others candidates = search o table others candidates := by
  induction others generalizing candidates with
  | nil => rfl
  | cons p others ih =>
    have report : reportOf { o with properties } table p (openTo p candidates) =
        reportOf o table p (openTo p candidates) := by
      unfold reportOf
      split <;> rfl
    rw [search_cons, search_cons, ih, report]

/-- With its properties in another order, an object has the same columns without a property. -/
theorem columnDrift_properties (perm : o.properties.Perm properties) : columnDrift { o with properties } table live =
    search o table (unmatchedProperties { o with properties } live) (fresh (unmatchedColumns o live)) := by
  have columns : unmatchedColumns { o with properties } live = unmatchedColumns o live := by
    apply List.filter_congr
    intro c _
    exact decide_eq_decide.mpr (forall_congr' fun _ => imp_congr_left perm.symm.mem_iff)
  rw [columnDrift_search, search_object, columns]

theorem columnDrift_any_order (perm : o.properties.Perm properties) (calm : ¬ Contested o live) :
    (columnDrift o table live).Perm (columnDrift { o with properties } table live) := by
  have unmatched : (unmatchedProperties o live).Perm (unmatchedProperties { o with properties } live) :=
    perm.filter _
  rw [columnDrift_search, columnDrift_properties perm]
  exact search_any_order unmatched (uncontested_iff.mpr calm)

/-- Where a column is contested, two orders of the properties make a difference. -/
theorem contested_orders (table : String) (contested : Contested o live) : ∃ first second,
    o.properties.Perm first ∧ o.properties.Perm second ∧
      ¬ (columnDrift { o with properties := first } table live).Perm
        (columnDrift { o with properties := second } table live) := by
  obtain ⟨p, listed, q, listedToo, different, column, single, fits⟩ := contested
  obtain ⟨held, unmatched⟩ := List.mem_filter.mp listed
  obtain ⟨heldToo, unmatchedToo⟩ := List.mem_filter.mp listedToo
  have other : q ≠ p := fun same => different (same ▸ ⟨rfl, rfl⟩)
  have parted : o.properties.Perm (p :: q :: (o.properties.erase p).erase q) :=
    (List.perm_cons_erase held).trans ((List.perm_cons_erase ((List.mem_erase_of_ne other).mpr heldToo)).cons p)
  have swapped := parted.trans (List.Perm.swap q p _)
  refine ⟨_, _, parted, swapped, ?_⟩
  rw [columnDrift_properties parted, columnDrift_properties swapped]
  simp only [unmatchedProperties, List.filter_cons, unmatched, unmatchedToo, if_true]
  have isOpen : openTo p (fresh (unmatchedColumns o live)) = [⟨column, false⟩] := by
    rw [openTo_fresh, single]
    rfl
  exact contested_differ different isOpen fits

end Objects

/-- An object has this table in a warehouse. -/
def HasTable (ontology : Ontology) (provider : Provider) (database schema : Option String) (o : Object)
    (live : LiveTable) : Prop :=
  ∃ placeDatabase placeSchema, (ontology.physicalDatabase? o <|> database) = some placeDatabase ∧
    (ontology.physicalSchema? o <|> schema) = some placeSchema ∧
    provider.table? placeDatabase placeSchema (ontology.physicalTable o) = .ok (some live)

/-! ### Ontologies -/

section Ontologies
variable {ontology other : Ontology} {provider : Provider} {database schema : Option String} {o : Object}
  {properties : List Property}

theorem objectDrift_table {live : LiveTable} (found : HasTable ontology provider database schema o live) :
    objectDrift ontology provider database schema o = .ok (columnDrift o (ontology.physicalTable o) live) := by
  obtain ⟨d, s, inDatabase, inSchema, answered⟩ := found
  unfold objectDrift
  simp only [inDatabase, inSchema, answered]

/-- Of an object without a table, the same is reported in every order of its properties. -/
theorem objectDrift_no_table (none : ∀ live, ¬ HasTable ontology provider database schema o live) :
    objectDrift ontology provider database schema { o with properties } =
      objectDrift ontology provider database schema o := by
  have place : ontology.physicalDatabase? { o with properties } = ontology.physicalDatabase? o := rfl
  have placeToo : ontology.physicalSchema? { o with properties } = ontology.physicalSchema? o := rfl
  have table : ontology.physicalTable { o with properties } = ontology.physicalTable o := rfl
  unfold objectDrift
  dsimp only
  rw [place, placeToo, table]
  split
  · next d s inDatabase inSchema =>
    cases answered : provider.table? d s (ontology.physicalTable o) with
    | error e => rfl
    | ok found =>
      cases found with
      | none => rfl
      | some live => exact absurd ⟨d, s, inDatabase, inSchema, answered⟩ (none live)
  · rfl

/-- What is reported of an object in another order of its properties, if a relation holds of what is said of tables. -/
theorem objectDrift_outcome {R : List DriftEvent → List DriftEvent → Prop} (refl : ∀ events, R events events)
    (tables : ∀ live, HasTable ontology provider database schema o live →
      R (columnDrift o (ontology.physicalTable o) live)
        (columnDrift { o with properties } (ontology.physicalTable o) live)) :
    SameOutcome R (objectDrift ontology provider database schema o)
      (objectDrift ontology provider database schema { o with properties }) := by
  by_cases found : ∃ live, HasTable ontology provider database schema o live
  · obtain ⟨live, found⟩ := found
    have foundToo : HasTable ontology provider database schema { o with properties } live := found
    rw [objectDrift_table found, objectDrift_table foundToo]
    exact .ok (tables live found)
  · have unchanged : objectDrift ontology provider database schema { o with properties } =
        objectDrift ontology provider database schema o := objectDrift_no_table (not_exists.mp found)
    rw [unchanged]
    exact SameOutcome.refl refl _

/-- What is reported of an ontology in another order, if a relation holds of what is said of tables. -/
theorem objectReports_outcome {R : List DriftEvent → List DriftEvent → Prop} (provider : Provider)
    (database schema : Option String) (refl : ∀ events, R events events)
    (reordered : ontology.PropertiesReordered other)
    (tables : ∀ o ∈ ontology.objects, ∀ live, HasTable ontology provider database schema o live →
      ∀ properties, o.properties.Perm properties → R (columnDrift o (ontology.physicalTable o) live)
        (columnDrift { o with properties } (ontology.physicalTable o) live)) :
    SameOutcome (List.Forall₂ R) (objectReports ontology database schema provider)
      (objectReports other database schema provider) := by
  obtain ⟨objects, related, rfl⟩ := reordered
  apply SameOutcome.mapM
  have members := (List.forall₂_and_left _ _).mpr ⟨fun o (listed : o ∈ ontology.objects) => listed, related⟩
  apply members.imp
  rintro o _ ⟨listed, properties, perm, rfl⟩
  exact objectDrift_outcome refl fun live found => tables o listed live found properties perm

/-- Where one object stands among others, its report stands among theirs. -/
theorem mappingDrift_among {before after : List Object} {events : List DriftEvent} :
    mappingDrift { ontology with objects := before ++ o :: after } provider database schema = .ok events ↔
    ∃ front report back, before.mapM (objectDrift ontology provider database schema) = .ok front ∧
      objectDrift ontology provider database schema o = .ok report ∧
      after.mapM (objectDrift ontology provider database schema) = .ok back ∧
      events = front.flatten ++ (report ++ back.flatten) := by
  have reports : mappingDrift { ontology with objects := before ++ o :: after } provider database schema =
      ((before ++ o :: after).mapM (objectDrift ontology provider database schema)).map List.flatten :=
    mappingDrift_eq ..
  rw [reports, List.mapM_append, List.mapM_cons]
  cases first : before.mapM (objectDrift ontology provider database schema) with
  | error e => simp [bind, Except.bind, Except.map]
  | ok front =>
    cases found : objectDrift ontology provider database schema o with
    | error e => simp [bind, Except.bind, Except.map]
    | ok report =>
      cases last : after.mapM (objectDrift ontology provider database schema) with
      | error e => simp [bind, Except.bind, Except.map]
      | ok back => simp [bind, Except.bind, Except.map, pure, Except.pure, eq_comm]

/-- An object in another order among the same others. -/
theorem reordered_among {before after : List Object} (split : ontology.objects = before ++ o :: after)
    (perm : o.properties.Perm properties) :
    ontology.PropertiesReordered { ontology with objects := before ++ { o with properties } :: after } := by
  have same (objects : List Object) : List.Forall₂ Object.Reordered objects objects :=
    List.forall₂_same.mpr fun o _ => ⟨o.properties, List.Perm.refl _, rfl⟩
  refine ⟨_, ?_, rfl⟩
  rw [split]
  exact List.rel_append (same before) (.cons ⟨properties, perm, rfl⟩ (same after))

/-- Only the report of one object follows the order of its properties. -/
theorem exists_reordered {events : List DriftEvent} {live : LiveTable}
    (outcome : mappingDrift ontology provider database schema = .ok events) (listed : o ∈ ontology.objects)
    (found : HasTable ontology provider database schema o live) :
    ∃ front back, ∀ properties, o.properties.Perm properties → ∃ other, ontology.PropertiesReordered other ∧
      mappingDrift other provider database schema =
        .ok (front ++ (columnDrift { o with properties } (ontology.physicalTable o) live ++ back)) := by
  obtain ⟨before, after, split⟩ := List.append_of_mem listed
  have whole : mappingDrift { ontology with objects := before ++ o :: after } provider database schema =
      .ok events := by
    rw [← split]
    exact outcome
  obtain ⟨front, _, back, reported, _, reportedToo, _⟩ := mappingDrift_among.mp whole
  refine ⟨front.flatten, back.flatten, fun properties perm => ⟨_, reordered_among split perm, ?_⟩⟩
  have foundToo : HasTable ontology provider database schema { o with properties } live := found
  exact mappingDrift_among.mpr ⟨front, _, back, reported, objectDrift_table foundToo, reportedToo, rfl⟩

/-- What is reported does not depend on the order in which objects declare their properties just if no two properties
contend for a column of a table, or not all can be asked of the warehouse. -/
theorem property_order_irrelevant_iff (ontology : Ontology) (provider : Provider) (database schema : Option String) :
    (∀ other, ontology.PropertiesReordered other →
      SameOutcome List.Perm (mappingDrift ontology provider database schema)
        (mappingDrift other provider database schema)) ↔
    (∃ e, mappingDrift ontology provider database schema = .error e) ∨
      ∀ o ∈ ontology.objects, ∀ live, HasTable ontology provider database schema o live → ¬ Contested o live := by
  constructor
  · intro irrelevant
    cases outcome : mappingDrift ontology provider database schema with
    | error e => exact .inl ⟨e, rfl⟩
    | ok events =>
      refine .inr fun o listed live found contested => ?_
      obtain ⟨first, second, perm, permToo, differ⟩ := contested_orders (ontology.physicalTable o) contested
      obtain ⟨front, back, among⟩ := exists_reordered outcome listed found
      obtain ⟨other, reordered, reported⟩ := among first perm
      obtain ⟨otherToo, reorderedToo, reportedToo⟩ := among second permToo
      have same := irrelevant other reordered
      have sameToo := irrelevant otherToo reorderedToo
      rw [outcome, reported, SameOutcome.ok_iff] at same
      rw [outcome, reportedToo, SameOutcome.ok_iff] at sameToo
      have both := (List.perm_append_left_iff _).mp (same.symm.trans sameToo)
      exact differ ((List.perm_append_right_iff _).mp both)
  · rintro (⟨e, failed⟩ | calm) other reordered
    · have alike := objectReports_outcome (R := fun _ _ => True) provider database schema (fun _ => trivial)
        reordered fun _ _ _ _ _ _ => trivial
      have same : SameOutcome (fun _ _ => True) (mappingDrift ontology provider database schema)
          (mappingDrift other provider database schema) := by
        rw [mappingDrift_eq, mappingDrift_eq]
        exact alike.map fun _ _ _ => trivial
      rw [failed, SameOutcome.error_iff] at same
      rw [failed, same]
      exact .error e
    · have alike := objectReports_outcome provider database schema List.Perm.refl reordered
        fun o listed live found properties perm => columnDrift_any_order perm (calm o listed live found)
      rw [mappingDrift_eq, mappingDrift_eq]
      exact alike.map fun _ _ each => List.Perm.flatten_congr each

end Ontologies

/-- The orders with their properties in another order: the quantity comes first. -/
def countedOrders : Object :=
  { soldOrders with properties := [⟨"quantity", .integer, "", true, false⟩, ⟨"id", .integer, "", true, false⟩,
      ⟨"total", .decimal, "", true, false⟩, ⟨"name", .string, "", true, false⟩] }

/-- The total and the quantity could both have become the amount, and the one that is declared first has. -/
theorem sold_orders_contended :
    soldOntology.PropertiesReordered { soldOntology with objects := [countedOrders] } ∧
    ∃ events eventsToo, mappingDrift soldOntology ordersWarehouse (some "DB") (some "PUBLIC") = .ok events ∧
      mappingDrift { soldOntology with objects := [countedOrders] } ordersWarehouse (some "DB") (some "PUBLIC") =
        .ok eventsToo ∧
      renamed soldOrders "order" ⟨"total", .decimal, "", true, false⟩ ⟨"AMOUNT", "NUMBER(12,2)", true⟩ ∈ events ∧
      renamed soldOrders "order" ⟨"quantity", .integer, "", true, false⟩ ⟨"AMOUNT", "NUMBER(12,2)", true⟩ ∈
        eventsToo ∧
      ¬ events.Perm eventsToo := by
  have perm : soldOrders.properties.Perm countedOrders.properties := by decide
  refine ⟨⟨[countedOrders], .cons ⟨_, perm, rfl⟩ .nil, rfl⟩, _, _, rfl, rfl, ?_, ?_, ?_⟩
  · exact List.mem_cons_self
  · exact List.mem_cons_self
  · intro same
    have kinds := same.map fun e => (e.kind, e.element)
    exact absurd kinds (by decide)

end Drift
end SemanticLayer
