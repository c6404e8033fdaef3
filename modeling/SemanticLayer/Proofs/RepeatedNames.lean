import SemanticLayer.Proofs.FindingPlaces
import SemanticLayer.Proofs.OtherFindings

/-! Names that are given twice. The first entries of names are kept in one pass over a list of records, so what is told
on the way are the entries that have the name of an earlier one, each with the least index of that name
(`repetitions_told`). A document has five kinds of such lists, and the findings that call a name a duplicate are, list
after list, those of one pass each. Main statement: `duplicates_exact`. -/
namespace SemanticLayer.Document

open Json (Pointer)

/-! ### Entries with the name of an earlier one -/

/-- An entry with the name of an earlier one: its index, its name, and the first index of that. -/
structure Repetition where
  index : Nat
  name : String
  first : Nat

/-- An entry has the name of an earlier one, and what is given as the first entry with this name is that. -/
structure Repetition.Holds (entries : List Json) (r : Repetition) : Prop where
  named : NameAt entries r.index r.name
  defined : NameAt entries r.first r.name
  before : r.first < r.index
  least : ∀ i < r.first, ¬ NameAt entries i r.name

/-- What an entry repeats, if one of those before it has its name. -/
def repetition? (entries : List Json) (entry : Json × Nat) : Option Repetition :=
  (entry.1.text? "name").bind fun name =>
    (firstIndex? name (entries.take entry.2)).map fun first => ⟨entry.2, name, first⟩

/-- The entries that have the name of an earlier one. -/
def repetitions (entries : List Json) : List Repetition := entries.zipIdx.filterMap (repetition? entries)

section Entries
variable {entries before : List Json} {entry : Json} {index first : Nat} {name : String} {r : Repetition}

theorem repetition?_eq_some {pair : Json × Nat} : repetition? entries pair = some r ↔
    pair.2 = r.index ∧ pair.1.text? "name" = some r.name ∧ firstIndex? r.name entries = some r.first ∧
      r.first < r.index := by
  simp only [repetition?, Option.bind_eq_some_iff, Option.map_eq_some_iff, firstIndex?_take]
  constructor
  · rintro ⟨name, named, first, ⟨earliest, before⟩, rfl⟩
    exact ⟨rfl, named, earliest, before⟩
  · rintro ⟨place, named, earliest, before⟩
    refine ⟨r.name, named, r.first, ⟨earliest, place ▸ before⟩, ?_⟩
    rw [place]

theorem mem_repetitions : r ∈ repetitions entries ↔ r.Holds entries := by
  simp only [repetitions, List.mem_filterMap, repetition?_eq_some, firstIndex?_eq_some]
  constructor
  · rintro ⟨⟨entry, _⟩, member, rfl, named, ⟨defined, least⟩, before⟩
    exact ⟨⟨entry, List.mem_zipIdx_iff_getElem?.mp member, named⟩, defined, before, least⟩
  · rintro ⟨⟨entry, found, named⟩, defined, before, least⟩
    exact ⟨(entry, r.index), List.mem_zipIdx_iff_getElem?.mpr found, rfl, named, ⟨defined, least⟩, before⟩

/-- There is something to tell of an entry exactly if it has the name of an earlier one. -/
theorem exists_repetition : (∃ r : Repetition, r.Holds entries ∧ r.index = index) ↔
    ∃ name, NameAt entries index name ∧ ∃ earlier < index, NameAt entries earlier name := by
  constructor
  · rintro ⟨r, holds, rfl⟩
    exact ⟨r.name, holds.named, r.first, holds.before, holds.defined⟩
  · rintro ⟨name, named, earlier⟩
    obtain ⟨first, met⟩ := Option.isSome_iff_exists.mp (earlier_isSome.mpr earlier)
    obtain ⟨earliest, before⟩ := firstIndex?_take.mp met
    obtain ⟨defined, least⟩ := firstIndex?_eq_some.mp earliest
    exact ⟨⟨index, name, first⟩, ⟨named, defined, before, least⟩, rfl⟩

/-- Of no entry two things are told. -/
theorem repetitions_nodup (entries : List Json) : ((repetitions entries).map Repetition.index).Nodup := by
  have increasing : entries.zipIdx.Pairwise fun a b => a.2 ≠ b.2 := by
    rw [← List.pairwise_map, List.zipIdx_map_snd]
    exact List.nodup_range'
  rw [List.Nodup, List.pairwise_map, repetitions, List.pairwise_filterMap]
  refine increasing.imp fun apart r one s other same => apart ?_
  rw [(repetition?_eq_some.mp one).1, (repetition?_eq_some.mp other).1, same]

/-- Entries that come later change nothing about those before. -/
theorem repetitions_concat : repetitions (before ++ [entry]) =
    repetitions before ++ (repetition? before (entry, before.length)).toList := by
  have early {pair : Json × Nat} (bound : pair.2 ≤ before.length) :
      repetition? (before ++ [entry]) pair = repetition? before pair := by
    rw [repetition?, List.take_append_of_le_length bound, repetition?]
  have old : before.zipIdx.filterMap (repetition? (before ++ [entry])) = repetitions before := by
    refine List.filterMap_congr fun pair member => early ?_
    exact (List.snd_lt_of_mem_zipIdx member).le
  rw [repetitions, List.zipIdx_append, List.filterMap_append, old, List.zipIdx_singleton, Nat.zero_add,
    List.filterMap_cons, List.filterMap_nil, early le_rfl]
  cases repetition? before (entry, before.length) <;> rfl

/-- As many entries repeat a name as there are names, less the distinct ones. -/
theorem repetitions_length (entries : List Json) :
    (repetitions entries).length + (namesIn entries).dedup.length = (namesIn entries).length := by
  rw [← List.card_toFinset]
  induction entries using List.reverseRecOn with
  | nil => rfl
  | append_singleton before entry ih =>
    have names : namesIn (before ++ [entry]) = namesIn before ++ (entry.text? "name").toList := by
      rw [namesIn, List.filterMap_append]
      cases named : entry.text? "name" <;> simp [namesIn, named]
    rw [repetitions_concat, names]
    cases named : entry.text? "name" with
    | none => simpa [repetition?, named] using ih
    | some name =>
      have known : (firstIndex? name before).isSome = true ↔ name ∈ (namesIn before).toFinset := by
        rw [firstIndex?_isSome, List.mem_toFinset]
      cases met : firstIndex? name before with
      | none =>
        rw [met] at known
        have fresh : name ∉ (namesIn before).toFinset := by
          rw [← known]
          exact Bool.false_ne_true
        simp [repetition?, named, met, Finset.union_comm _ {name}, Finset.card_insert_of_notMem fresh]
        omega
      | some first =>
        rw [met] at known
        simp [repetition?, named, met, Finset.union_comm _ {name}, Finset.insert_eq_of_mem (known.mp rfl)]
        omega

/-- What is told of the entries with the name of an earlier one is what is told in one pass. -/
theorem repetitions_told (tell : Repetition → Finding) (entries : List Json) :
    reportNamed (fun index _ name first =>
      match first with
      | none => []
      | some first => [tell ⟨index, name, first⟩]) [] entries.zipIdx = (repetitions entries).map tell := by
  rw [reportNamed_eq, repetitions, List.map_filterMap, List.filterMap_eq_flatMap_toList]
  refine List.flatMap_congr fun pair _ => ?_
  unfold reportOf repetition?
  cases pair.1.text? "name" with
  | none => rfl
  | some name =>
    dsimp only [Option.bind_some]
    cases firstIndex? name (entries.take pair.2) <;> rfl

end Entries

/-! ### The lists of a document -/

/-- A list of a document whose records have names. -/
inductive NamedList
  | objects
  | relationships
  | metrics
  | dimensions
  /-- The properties of the object at an index. -/
  | properties (object : Nat)

namespace NamedList

/-- The object at an index, if there is one. -/
def objectAt (root : Json) (object : Nat) : Json := (root.items "objects")[object]?.getD .null

def entries (root : Json) : NamedList → List Json
  | objects => root.items "objects"
  | relationships => root.items "relationships"
  | metrics => root.items "metrics"
  | dimensions => root.items "dimensions"
  | properties object => (objectAt root object).items "properties"

def place : NamedList → Pointer
  | objects => ["objects"]
  | relationships => ["relationships"]
  | metrics => ["metrics"]
  | dimensions => ["dimensions"]
  | properties object => ["objects", toString object, "properties"]

/-- Where the name of an entry stands. -/
def namePlace (list : NamedList) (index : Nat) : Pointer := list.place ++ [toString index, "name"]

/-- The words in which an entry is told that it has the name of an earlier one. -/
def message (root : Json) (r : Repetition) : NamedList → String
  | objects => s!"Duplicate object name '{r.name}' (first defined at index {r.first})"
  | relationships => s!"Duplicate relationship name '{r.name}' (first defined at index {r.first})"
  | metrics => s!"Duplicate metric name '{r.name}' (first defined at index {r.first})"
  | dimensions => s!"Duplicate dimension name '{r.name}' (first defined at index {r.first})"
  | properties object =>
    s!"Duplicate property name '{r.name}' on object '{nameOf (objectAt root object)}' "
      ++ s!"(first defined at index {r.first})"

/-- What is told of an entry that has the name of an earlier one. -/
def finding (root : Json) (list : NamedList) (r : Repetition) : Finding :=
  findingOf (list.message root r) (list.namePlace r.index) (.str r.name)

/-- Whether a finding is about the name of an entry of a list. -/
def about (list : NamedList) (f : Finding) : Bool :=
  (Pointer.parse? f.path).map (fun place => place.dropLast.dropLast) = some list.place

/-- The lists of a document. -/
def all (root : Json) : List NamedList :=
  [objects, relationships, metrics, dimensions] ++ (List.range (root.items "objects").length).map properties

section Places
variable {list other : NamedList} {root : Json} {r : Repetition} {index i : Nat}

theorem place_injective (same : list.place = other.place) : list = other := by
  cases list <;> cases other <;> simp_all [place]

theorem path_finding : (list.finding root r).path = (list.namePlace r.index).render := rfl

theorem about_finding : other.about (list.finding root r) = true ↔ list = other := by
  have parent : (list.namePlace r.index).dropLast.dropLast = list.place := by simp [namePlace]
  rw [about, path_finding, Json.Pointer.parse?_render, Option.map_some, decide_eq_true_eq, Option.some.injEq, parent]
  exact ⟨place_injective, congrArg place⟩

theorem namePlace_injective (same : list.namePlace index = other.namePlace i) : list = other ∧ index = i := by
  obtain ⟨places, rest⟩ := List.append_inj' same rfl
  exact ⟨place_injective places, by simpa using rest⟩

theorem all_nodup (root : Json) : (all root).Nodup := by
  have properties : ((List.range (root.items "objects").length).map properties).Nodup :=
    List.nodup_range.map fun m n same => by simpa using same
  simp [all, properties]

/-- A list that a document does not have is empty. -/
theorem entries_of_notMem (absent : list ∉ all root) : list.entries root = [] := by
  cases list with
  | properties object =>
    have beyond : (root.items "objects").length ≤ object := by simpa [all] using absent
    rw [entries, objectAt, List.getElem?_eq_none beyond]
    rfl
  | _ => simp [all] at absent

end Places
end NamedList

/-! ### What a document is told -/

/-- The findings that call a name a duplicate. -/
def duplicates (root : Json) : List Finding := (validate root).findings.filter Finding.isDuplicate

section Duplicates
variable {root : Json} {f : Finding}

theorem objectNames_told (object : Nat) :
    (objectNames ["objects", toString object] (NamedList.objectAt root object)).filter Finding.isDuplicate =
      (repetitions ((NamedList.properties object).entries root)).map ((NamedList.properties object).finding root) := by
  rw [objectNames_duplicates, ← repetitions_told]
  simp only [propertyNames_duplicates]
  rfl

/-- List after list is told of its own repetitions. -/
theorem duplicates_eq (root : Json) : duplicates root =
    (NamedList.all root).flatMap fun list => (repetitions (list.entries root)).map (list.finding root) := by
  have objects : indexed (root.items "objects") = (List.range (root.items "objects").length).map fun object =>
      (toString object, NamedList.objectAt root object) := by
    refine List.ext_getElem (by simp [indexed]) fun i bound _ => ?_
    have inside : i < (root.items "objects").length := by simpa [indexed] using bound
    simp [indexed, NamedList.objectAt, inside]
  rw [duplicates, findings_duplicates, objects, List.flatMap_map, NamedList.all, List.flatMap_append,
    List.flatMap_map]
  congr 1
  · simp only [List.flatMap_cons, List.flatMap_nil, List.append_nil, ← repetitions_told, List.append_assoc]
    rfl
  · exact List.flatMap_congr fun object _ => objectNames_told object

theorem mem_duplicates : f ∈ duplicates root ↔
    ∃ (list : NamedList) (r : Repetition), r.Holds (list.entries root) ∧ f = list.finding root r := by
  rw [duplicates_eq]
  simp only [List.mem_flatMap, List.mem_map, mem_repetitions]
  constructor
  · rintro ⟨list, _, r, holds, rfl⟩
    exact ⟨list, r, holds, rfl⟩
  · rintro ⟨list, r, holds, rfl⟩
    refine ⟨list, ?_, r, holds, rfl⟩
    by_contra absent
    obtain ⟨entry, found, _⟩ := holds.named
    simp [NamedList.entries_of_notMem absent] at found

theorem finding_paths_nodup (list : NamedList) :
    (((repetitions (list.entries root)).map (list.finding root)).map Finding.path).Nodup := by
  rw [List.map_map]
  have distinct := (repetitions_nodup (list.entries root)).map (f := fun index => (list.namePlace index).render)
    fun i j same => (NamedList.namePlace_injective (Json.Pointer.render_injective same)).2
  rwa [List.map_map] at distinct

theorem duplicates_paths_nodup (root : Json) : ((duplicates root).map Finding.path).Nodup := by
  rw [duplicates_eq, List.map_flatMap, List.nodup_flatMap]
  refine ⟨fun list _ => finding_paths_nodup list, (NamedList.all_nodup root).imp ?_⟩
  intro list other apart path member both
  simp only [List.mem_map, exists_exists_and_eq_and] at member both
  obtain ⟨r, _, rfl⟩ := member
  obtain ⟨s, _, same⟩ := both
  exact apart (NamedList.namePlace_injective (Json.Pointer.render_injective same)).1.symm

end Duplicates

/-- What is told of duplicates in a document, and that nothing else is. -/
structure DuplicatesExact (root : Json) (told : List Finding) : Prop where
  /-- An entry is told of exactly if it has a name and an earlier entry has it too. -/
  reported (list : NamedList) (index : Nat) : (∃ f ∈ told, f.path = (list.namePlace index).render) ↔
    ∃ name, NameAt (list.entries root) index name ∧ ∃ earlier < index, NameAt (list.entries root) earlier name
  /-- What is told is in the words for its list, with the name and the least index that has it. -/
  quoted (f : Finding) : f ∈ told ↔
    ∃ (list : NamedList) (r : Repetition), r.Holds (list.entries root) ∧ f = list.finding root r
  /-- No entry is told of twice. -/
  once : (told.map Finding.path).Nodup
  /-- Of each list as many entries are told of as have names, less the distinct names. -/
  counted (list : NamedList) : (told.filter list.about).length + (namesIn (list.entries root)).dedup.length =
    (namesIn (list.entries root)).length

/-- The findings that call a name a duplicate are exactly those for the entries that have the name of an earlier
one, in the lists of objects, relationships, metrics and dimensions and in the properties of each object; each
of these entries has one, and that quotes the first entry with the name. Entries without a name keep their
places and are nowhere told of. -/
theorem duplicates_exact (root : Json) :
    DuplicatesExact root ((validate root).findings.filter Finding.isDuplicate) := by
  change DuplicatesExact root (duplicates root)
  refine ⟨fun list index => ?_, fun f => mem_duplicates, duplicates_paths_nodup root, fun list => ?_⟩
  · rw [← exists_repetition]
    constructor
    · rintro ⟨f, member, path⟩
      obtain ⟨other, r, holds, rfl⟩ := mem_duplicates.mp member
      obtain ⟨rfl, rfl⟩ := NamedList.namePlace_injective (Json.Pointer.render_injective path)
      exact ⟨r, holds, rfl⟩
    · rintro ⟨r, holds, rfl⟩
      exact ⟨list.finding root r, mem_duplicates.mpr ⟨list, r, holds, rfl⟩, rfl⟩
  · have own : ((duplicates root).filter list.about).Perm
        ((repetitions (list.entries root)).map (list.finding root)) := by
      rw [List.perm_ext_iff_of_nodup ((duplicates_paths_nodup root).of_map.filter _) (finding_paths_nodup list).of_map]
      intro f
      simp only [List.mem_filter, mem_duplicates, List.mem_map, mem_repetitions]
      constructor
      · rintro ⟨⟨other, r, holds, rfl⟩, about⟩
        obtain rfl := NamedList.about_finding.mp about
        exact ⟨r, holds, rfl⟩
      · rintro ⟨r, holds, rfl⟩
        exact ⟨⟨list, r, holds, rfl⟩, NamedList.about_finding.mpr rfl⟩
    rw [own.length_eq, List.length_map]
    exact repetitions_length _

end SemanticLayer.Document
