import SemanticLayer.Document.Names
import SemanticLayer.Proofs.TextOrder

/-! The first entries of names. A list of records is gone through once, with a table of the names met so far. The table
has the least index of every name, and keeps it when an entry is added (`Indexes.named`, `Indexes.unnamed`); so what is
reported of an entry is what a search of all entries before it would give (`reportNamed_eq`). -/
namespace SemanticLayer.Document

/-- The names in a list of records. -/
def namesIn (items : List Json) : List String := items.filterMap (·.text? "name")

/-- An entry of a list has a name. -/
def NameAt (entries : List Json) (index : Nat) (name : String) : Prop :=
  ∃ entry, entries[index]? = some entry ∧ entry.text? "name" = some name

/-- The index of the first entry with a name. -/
def firstIndex? (name : String) (entries : List Json) : Option Nat :=
  entries.findIdx? (·.text? "name" = some name)

section Indices
variable {entries before : List Json} {entry : Json} {name : String} {index first : Nat}

theorem firstIndex?_eq_some : firstIndex? name entries = some first ↔
    NameAt entries first name ∧ ∀ i < first, ¬ NameAt entries i name := by
  unfold firstIndex?
  rw [List.findIdx?_eq_some_iff_getElem]
  constructor
  · rintro ⟨bound, named, earlier⟩
    refine ⟨⟨entries[first], List.getElem?_eq_getElem bound, of_decide_eq_true named⟩, ?_⟩
    rintro i before ⟨entry, found, same⟩
    obtain ⟨_, rfl⟩ := List.getElem?_eq_some_iff.mp found
    exact earlier i before (decide_eq_true same)
  · rintro ⟨⟨entry, found, named⟩, earlier⟩
    obtain ⟨bound, rfl⟩ := List.getElem?_eq_some_iff.mp found
    refine ⟨bound, decide_eq_true named, fun i before same => ?_⟩
    exact earlier i before ⟨entries[i], List.getElem?_eq_getElem (by omega), of_decide_eq_true same⟩

theorem firstIndex?_isSome : (firstIndex? name entries).isSome = true ↔ name ∈ namesIn entries := by
  rw [firstIndex?, List.findIdx?_isSome, List.any_eq_true, namesIn, List.mem_filterMap]
  simp only [decide_eq_true_eq]

/-- The entries before an index have the first entry of a name if it stands there. -/
theorem firstIndex?_take : firstIndex? name (entries.take index) = some first ↔
    firstIndex? name entries = some first ∧ first < index := by
  rw [firstIndex?, List.findIdx?_take, Option.bind_eq_some_iff]
  simp [firstIndex?, Option.guard_eq_some_iff, and_comm]

/-- A name is first borne by one of the entries before, or else by the new one. -/
theorem firstIndex?_concat : firstIndex? name (before ++ [entry]) =
    (firstIndex? name before).or (if entry.text? "name" = some name then some before.length else none) := by
  rw [firstIndex?, List.findIdx?_append, List.findIdx?_singleton]
  by_cases named : entry.text? "name" = some name <;> simp [firstIndex?, named]

/-- A name is among those of the entries before an index if one of these entries has it. -/
theorem earlier_isSome : (firstIndex? name (entries.take index)).isSome = true ↔
    ∃ i < index, NameAt entries i name := by
  constructor
  · intro met
    obtain ⟨first, met⟩ := Option.isSome_iff_exists.mp met
    obtain ⟨earliest, before⟩ := firstIndex?_take.mp met
    exact ⟨first, before, (firstIndex?_eq_some.mp earliest).1⟩
  · rintro ⟨i, before, entry, found, named⟩
    rw [← List.getElem?_take_of_lt before] at found
    exact firstIndex?_isSome.mpr (List.mem_filterMap.mpr ⟨entry, List.mem_of_getElem? found, named⟩)

/-- Names are distinct exactly if no entry has the name of an earlier one. -/
theorem namesIn_nodup : (namesIn entries).Nodup ↔ ∀ index entry name, entries[index]? = some entry →
    entry.text? "name" = some name → firstIndex? name (entries.take index) = none := by
  unfold namesIn List.Nodup
  rw [List.pairwise_filterMap, List.pairwise_iff_getElem]
  constructor
  · intro distinct index entry name found named
    by_contra met
    obtain ⟨i, before, other, foundToo, sameName⟩ := earlier_isSome.mp (Option.isSome_iff_ne_none.mpr met)
    obtain ⟨bound, rfl⟩ := List.getElem?_eq_some_iff.mp found
    obtain ⟨otherBound, rfl⟩ := List.getElem?_eq_some_iff.mp foundToo
    exact distinct i index otherBound bound before name sameName name named rfl
  · intro unmet i j iBound jBound before name named other otherNamed same
    subst same
    have met := earlier_isSome.mpr ⟨i, before, entries[i], List.getElem?_eq_getElem iBound, named⟩
    rw [unmet j entries[j] name (List.getElem?_eq_getElem jBound) otherNamed] at met
    cases met

end Indices

/-! ### One pass -/

/-- A table has the least index of every name in a list. -/
def Indexes (seen : FirstSeen) (before : List Json) : Prop :=
  ∀ name, Keyed.get? name seen = firstIndex? name before

/-- What is reported of an entry, the first entry with its name being looked for in those before it. -/
def reportOf (report : Nat → Json → String → Option Nat → List Finding) (entries : List Json)
    (entry : Json × Nat) : List Finding :=
  match entry.1.text? "name" with
  | none => []
  | some name => report entry.2 entry.1 name (firstIndex? name (entries.take entry.2))

section Pass
variable {entries before rest : List Json} {entry : Json} {name : String} {seen : FirstSeen}
  {report : Nat → Json → String → Option Nat → List Finding} {f : Finding}

theorem indexes_nil : Indexes [] [] := fun _ => rfl

theorem Indexes.unnamed (table : Indexes seen before) (unnamed : entry.text? "name" = none) :
    Indexes seen (before ++ [entry]) := by
  intro name
  simp [firstIndex?_concat, unnamed, table name]

theorem Indexes.named (table : Indexes seen before) (named : entry.text? "name" = some name) :
    Indexes (Keyed.insertNew name before.length seen) (before ++ [entry]) := by
  intro other
  simp [firstIndex?_concat, Keyed.get?_insertNew, named, table other]

/-- With a table of the entries before it, a pass over the rest of a list reports what a search would give. -/
theorem reportNamed_rest (table : Indexes seen before) :
    reportNamed report seen (rest.zipIdx before.length) =
      (rest.zipIdx before.length).flatMap (reportOf report (before ++ rest)) := by
  induction rest generalizing before seen with
  | nil => rfl
  | cons entry rest ih =>
    have more : before ++ entry :: rest = before ++ [entry] ++ rest := by simp
    have length : before.length + 1 = (before ++ [entry]).length := by simp
    have earlier : (before ++ entry :: rest).take before.length = before := List.take_left
    rw [List.zipIdx_cons, List.flatMap_cons, reportOf, earlier, length, more, reportNamed]
    cases named : entry.text? "name" with
    | none => exact ih (table.unnamed named)
    | some name =>
      dsimp only
      rw [ih (table.named named), table name]

/-- What is reported in one pass is what a search for each name among the entries before would give. -/
theorem reportNamed_eq (report : Nat → Json → String → Option Nat → List Finding) (entries : List Json) :
    reportNamed report [] entries.zipIdx = entries.zipIdx.flatMap (reportOf report entries) :=
  reportNamed_rest indexes_nil

theorem mem_reportNamed : f ∈ reportNamed report [] entries.zipIdx ↔
    ∃ index entry name, entries[index]? = some entry ∧ entry.text? "name" = some name ∧
      f ∈ report index entry name (firstIndex? name (entries.take index)) := by
  rw [reportNamed_eq, List.mem_flatMap]
  constructor
  · rintro ⟨⟨entry, index⟩, listed, reported⟩
    have found := List.mem_zipIdx_iff_getElem?.mp listed
    unfold reportOf at reported
    split at reported
    · cases reported
    · next name named => exact ⟨index, entry, name, found, named, reported⟩
  · rintro ⟨index, entry, name, found, named, reported⟩
    refine ⟨(entry, index), List.mem_zipIdx_iff_getElem?.mpr found, ?_⟩
    simpa [reportOf, named] using reported

theorem reportNamed_eq_nil : reportNamed report [] entries.zipIdx = [] ↔
    ∀ index entry name, entries[index]? = some entry → entry.text? "name" = some name →
      report index entry name (firstIndex? name (entries.take index)) = [] := by
  simp only [List.eq_nil_iff_forall_not_mem, mem_reportNamed, not_exists, not_and]
  constructor
  · intro none index entry name found named f
    exact none f index entry name found named
  · intro none f index entry name found named
    exact none index entry name found named f

theorem filter_reportNamed (keep : Finding → Bool) (pairs : List (Json × Nat)) :
    (reportNamed report seen pairs).filter keep =
      reportNamed (fun index entry name first => (report index entry name first).filter keep) seen pairs := by
  induction pairs generalizing seen with
  | nil => rfl
  | cons pair pairs ih =>
    rw [reportNamed, reportNamed]
    cases pair.1.text? "name" with
    | none => exact ih
    | some name =>
      dsimp only
      rw [List.filter_append, ih]

end Pass
end SemanticLayer.Document
