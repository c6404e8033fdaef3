import SemanticLayer.Proofs.JsonPointer
import SemanticLayer.Proofs.TextOrder
import SemanticLayer.Provider.Catalog

/-! What a catalog finds under a full name. The three parts of a name are stored as one key, with dots between them.
Letter case aside, a name whose parts have no dot is the only one with its key, and any other name shares its key with
another one (`same_iff_key`, `exists_rival`). So a catalog answers for its names as a map would if no part of them has
a dot, and a name with a dot can be answered with what belongs to another one. Main statement:
`found_by_name_iff`. -/
namespace SemanticLayer

/-! ### Letter case -/

namespace Text
variable {s t : String}

theorem asciiUpper_asciiLower (s : String) : asciiUpper (asciiLower s) = asciiUpper s := by
  simp [asciiUpper, asciiLower, Function.comp_def]

theorem asciiLower_asciiUpper (s : String) : asciiLower (asciiUpper s) = asciiLower s := by
  simp [asciiUpper, asciiLower, Function.comp_def]

/-- Texts that differ in letter case only are those of the same upper case. -/
theorem sameIgnoringCase_iff : sameIgnoringCase s t = true ↔ asciiUpper s = asciiUpper t := by
  rw [sameIgnoringCase, beq_iff_eq]
  constructor
  · intro same
    rw [← asciiUpper_asciiLower, same, asciiUpper_asciiLower]
  · intro same
    rw [← asciiLower_asciiUpper, same, asciiLower_asciiUpper]

theorem asciiUpper_length (s : String) : (asciiUpper s).length = s.length := by
  simp [asciiUpper, ← String.length_toList]

theorem asciiUpper_append (s t : String) : asciiUpper (s ++ t) = asciiUpper s ++ asciiUpper t := by
  apply String.toList_inj.mp
  simp [asciiUpper, String.toList_append]

theorem toUpper_eq_dot {c : Char} : c.toUpper = '.' ↔ c = '.' := by
  constructor
  · intro dot
    have letter : c.isAlpha = false := by
      rw [← Char.isUpper_toUpper_eq_isAlpha, dot]
      rfl
    have lower : ¬ c.isLower = true := by
      rw [Char.isAlpha, Bool.or_eq_false_iff] at letter
      simp [letter.2]
    rwa [Char.toUpper_eq_of_not_isLower lower] at dot
  · rintro rfl
    rfl

theorem count_dot_asciiUpper (s : String) : (asciiUpper s).toList.count '.' = s.toList.count '.' := by
  rw [asciiUpper, String.toList_ofList, List.count, List.countP_map]
  congr 1
  funext c
  simp [toUpper_eq_dot]

end Text

/-! ### The last bearer of a key -/

/-- Of values that are stored one after the other, the last one under a key is found. -/
theorem Keyed.get?_foldl_insert {α : Type} {key : String} (pairs start : List (String × α)) :
    get? key (pairs.foldl (fun entries pair => insert pair.1 pair.2 entries) start) =
      ((pairs.reverse.find? (·.1 = key)).map Prod.snd).or (get? key start) := by
  induction pairs generalizing start with
  | nil => rfl
  | cons pair rest ih =>
    rw [List.foldl_cons, ih, get?_insert, List.reverse_cons, List.find?_append]
    cases rest.reverse.find? (·.1 = key) with
    | some later => rfl
    | none => by_cases same : pair.1 = key <;> simp [same]

namespace Catalog

/-! ### Full names -/

/-- The full name of a table or a view. -/
structure FullName where
  database : String
  schema : String
  name : String
  deriving DecidableEq, Repr

namespace FullName
variable {n m : FullName}

/-- What the name is stored under. -/
def key (n : FullName) : String := Catalog.key n.database n.schema n.name

/-- The same name in any letter case. -/
def Same (n m : FullName) : Prop :=
  Text.sameIgnoringCase n.database m.database ∧ Text.sameIgnoringCase n.schema m.schema ∧
    Text.sameIgnoringCase n.name m.name

instance : DecidableRel Same := fun _ _ => inferInstanceAs (Decidable (_ ∧ _ ∧ _))

/-- How many dots there are in the parts of a name. -/
def dots (n : FullName) : Nat :=
  n.database.toList.count '.' + n.schema.toList.count '.' + n.name.toList.count '.'

/-- No part of the name has a dot. -/
def Dotless (n : FullName) : Prop :=
  '.' ∉ n.database.toList ∧ '.' ∉ n.schema.toList ∧ '.' ∉ n.name.toList

theorem dotless_iff : n.Dotless ↔ n.dots = 0 := by
  simp only [Dotless, dots, Nat.add_eq_zero_iff, List.count_eq_zero, and_assoc]

theorem key_eq (n : FullName) : n.key = Text.asciiUpper n.database ++ "." ++ Text.asciiUpper n.schema ++ "." ++
    Text.asciiUpper n.name := rfl

theorem key_chars (n : FullName) : n.key.toList = (Text.asciiUpper n.database).toList ++
    '.' :: ((Text.asciiUpper n.schema).toList ++ '.' :: (Text.asciiUpper n.name).toList) := by
  simp [key_eq, String.toList_append]

theorem count_key (n : FullName) : n.key.toList.count '.' = n.dots + 2 := by
  simp only [key_chars, List.count_append, List.count_cons_self, Text.count_dot_asciiUpper, dots]
  omega

theorem dots_of_key (same : n.key = m.key) : n.dots = m.dots := by
  have counts := count_key n
  rw [same, count_key m] at counts
  omega

/-- A name without dots is read back from its key, but for letter case. -/
theorem key_pieces (plain : n.Dotless) : Text.splitAtChar '.' n.key.toList =
    [(Text.asciiUpper n.database).toList, (Text.asciiUpper n.schema).toList,
      (Text.asciiUpper n.name).toList] := by
  have upper {s : String} (none : '.' ∉ s.toList) : '.' ∉ (Text.asciiUpper s).toList := by
    rwa [← List.count_eq_zero, Text.count_dot_asciiUpper, List.count_eq_zero]
  rw [key_chars, Text.splitAtChar_append (upper plain.1), Text.splitAtChar_append (upper plain.2.1),
    Text.splitAtChar_plain (upper plain.2.2)]

theorem Same.key_eq (same : n.Same m) : n.key = m.key := by
  obtain ⟨database, schema, name⟩ := same
  rw [Text.sameIgnoringCase_iff] at database schema name
  rw [key, key, Catalog.key, Catalog.key, database, schema, name]

theorem Same.name_length (same : n.Same m) : n.name.length = m.name.length := by
  rw [← Text.asciiUpper_length, Text.sameIgnoringCase_iff.mp same.2.2, Text.asciiUpper_length]

theorem Dotless.of_key (plain : n.Dotless) (same : n.key = m.key) : m.Dotless := by
  rwa [dotless_iff, ← dots_of_key same, ← dotless_iff]

theorem same_of_key (plain : n.Dotless) (same : n.key = m.key) : n.Same m := by
  have pieces := key_pieces plain
  rw [same, key_pieces (plain.of_key same)] at pieces
  simp only [List.cons.injEq, String.toList_inj, and_true] at pieces
  simp only [Same, Text.sameIgnoringCase_iff]
  exact ⟨pieces.1.symm, pieces.2.1.symm, pieces.2.2.symm⟩

/-- No other name has the key of a name without dots. -/
theorem same_iff_key (plain : n.Dotless ∨ m.Dotless) : n.Same m ↔ n.key = m.key := by
  refine ⟨Same.key_eq, fun same => ?_⟩
  rcases plain with plain | plain
  · exact same_of_key plain same
  · exact same_of_key (plain.of_key same.symm) same

theorem exists_parts {s : String} (dotted : '.' ∈ s.toList) : ∃ a b, s = a ++ "." ++ b := by
  obtain ⟨a, b, split⟩ := List.append_of_mem dotted
  refine ⟨String.ofList a, String.ofList b, String.toList_inj.mp ?_⟩
  simp [split, String.toList_append]

/-- A name with a dot shares its key with one that is parted elsewhere. -/
theorem exists_rival (dotted : ¬ n.Dotless) :
    ∃ m : FullName, m.key = n.key ∧ m.name.length ≠ n.name.length := by
  have dot : Text.asciiUpper "." = "." := by decide
  obtain ⟨database, schema, name⟩ := n
  by_cases inName : '.' ∈ name.toList
  · obtain ⟨a, b, rfl⟩ := exists_parts inName
    refine ⟨⟨database, schema ++ "." ++ a, b⟩, ?_, by simp⟩
    simp only [key_eq, Text.asciiUpper_append, dot, String.append_assoc]
  by_cases inSchema : '.' ∈ schema.toList
  · obtain ⟨a, b, rfl⟩ := exists_parts inSchema
    refine ⟨⟨database, a, b ++ "." ++ name⟩, ?_, by simp⟩
    simp only [key_eq, Text.asciiUpper_append, dot, String.append_assoc]
  · have inDatabase : '.' ∈ database.toList := by
      by_contra none
      exact dotted ⟨none, inSchema, inName⟩
    obtain ⟨a, b, rfl⟩ := exists_parts inDatabase
    refine ⟨⟨a, b, schema ++ "." ++ name⟩, ?_, by simp⟩
    simp only [key_eq, Text.asciiUpper_append, dot, String.append_assoc]

end FullName

/-! ### What is stored -/

/-- The last value under the key of a name. -/
def lastKeyed (stored : List (FullName × α)) (n : FullName) : Option α :=
  (stored.reverse.find? (·.1.key = n.key)).map Prod.snd

/-- The last value of a name. -/
def lastNamed (stored : List (FullName × α)) (n : FullName) : Option α :=
  (stored.reverse.find? (·.1.Same n)).map Prod.snd

section Stored
variable {α : Type} {stored : List (FullName × α)} {n : FullName}

theorem lastKeyed_eq (apart : ∀ entry ∈ stored, entry.1.Same n ↔ entry.1.key = n.key) :
    lastKeyed stored n = lastNamed stored n := by
  unfold lastKeyed lastNamed
  congr 1
  apply List.find?_congr
  intro entry member
  rw [decide_eq_decide]
  exact (apart entry (List.mem_reverse.mp member)).symm

theorem lastNamed_eq_some {value : α} (found : lastNamed stored n = some value) :
    ∃ m, (m, value) ∈ stored ∧ m.Same n := by
  obtain ⟨⟨m, _⟩, last, rfl⟩ := Option.map_eq_some_iff.mp found
  have same := List.find?_some last
  exact ⟨m, List.mem_reverse.mp (List.mem_of_find?_eq_some last), of_decide_eq_true same⟩

theorem exists_lastKeyed {value : α} (member : (n, value) ∈ stored) :
    ∃ m last, (m, last) ∈ stored ∧ m.key = n.key ∧ lastKeyed stored n = some last := by
  have listed : (stored.reverse.find? (·.1.key = n.key)).isSome = true := by
    rw [List.find?_isSome]
    exact ⟨(n, value), List.mem_reverse.mpr member, by simp⟩
  obtain ⟨⟨m, last⟩, found⟩ := Option.isSome_iff_exists.mp listed
  have sameKey := List.find?_some found
  exact ⟨m, last, List.mem_reverse.mp (List.mem_of_find?_eq_some found), of_decide_eq_true sameKey,
    by rw [lastKeyed, found, Option.map_some]⟩

/-- Where values show what they are called, each name has its own value just if no name has a dot. -/
theorem all_named_iff {title : α → String} (titled : ∀ entry ∈ stored, title entry.2 = entry.1.name) :
    (∀ n, lastKeyed stored n = lastNamed stored n) ↔ ∀ entry ∈ stored, entry.1.Dotless := by
  constructor
  · rintro exact ⟨n, value⟩ member
    by_contra dotted
    obtain ⟨m, last, listed, sameKey, found⟩ := exists_lastKeyed member
    have dottedToo : ¬ m.Dotless := by
      rwa [FullName.dotless_iff, FullName.dots_of_key sameKey, ← FullName.dotless_iff]
    obtain ⟨rival, rivalKey, longer⟩ := FullName.exists_rival dottedToo
    -- The rival is answered with a value of another name.
    have answered : lastKeyed stored rival = some last := by
      rw [← found, lastKeyed, lastKeyed, rivalKey, sameKey]
    rw [exact rival] at answered
    obtain ⟨bearer, listedToo, same⟩ := lastNamed_eq_some answered
    have titles : bearer.name = m.name := (titled _ listedToo).symm.trans (titled _ listed)
    exact longer (by rw [← titles, same.name_length])
  · intro plain n
    exact lastKeyed_eq fun entry member => FullName.same_iff_key (.inl (plain entry member))

end Stored

/-! ### What is added -/

/-- A table, a table by its name and the names and types of its columns, or a view. -/
inductive Addition where
  | table (table : LiveTable)
  | columns (name : FullName) (columns : List (String × String))
  | view (name : FullName) (yaml : String)
  deriving Repr

/-- A table of a name with columns that may be null. -/
def FullName.table (n : FullName) (columns : List (String × String)) : LiveTable :=
  ⟨n.database, n.schema, n.name, columns.map fun (name, type) => ⟨name, type, true⟩⟩

namespace Addition

/-- The table that is added. -/
def table? : Addition → Option LiveTable
  | .table t => some t
  | .columns n listed => some (n.table listed)
  | .view _ _ => none

/-- The view that is added, with its full name. -/
def view? : Addition → Option (FullName × LiveView)
  | .view n yaml => some (n, ⟨n.name, yaml⟩)
  | .table _ => none
  | .columns _ _ => none

end Addition

/-- The tables in some additions. -/
def tablesIn (additions : List Addition) : List (FullName × LiveTable) :=
  (additions.filterMap Addition.table?).map fun t => (⟨t.database, t.schema, t.table⟩, t)

/-- The views in some additions. -/
def viewsIn (additions : List Addition) : List (FullName × LiveView) := additions.filterMap Addition.view?

/-- Adds a table or a view. -/
def add (c : Catalog) (addition : Addition) : Catalog :=
  match addition with
  | .table t => c.addTable t
  | .columns n listed => c.addTable (n.table listed)
  | .view n yaml => c.addView n.database n.schema n.name yaml

/-- Adds tables and views, one after the other. -/
def addAll (c : Catalog) (additions : List Addition) : Catalog := additions.foldl add c

/-- Stores values under the keys of their names, one after the other. -/
def storeAll (stored : List (FullName × α)) (entries : List (String × α)) : List (String × α) :=
  (stored.map fun (n, value) => (n.key, value)).foldl (fun entries pair => Keyed.insert pair.1 pair.2 entries) entries

section Runs
variable (c : Catalog) (additions : List Addition) (n : FullName)

theorem get?_storeAll {α : Type} (stored : List (FullName × α)) (entries : List (String × α)) :
    Keyed.get? n.key (storeAll stored entries) = (lastKeyed stored n).or (Keyed.get? n.key entries) := by
  rw [storeAll, Keyed.get?_foldl_insert, lastKeyed, ← List.map_reverse, List.find?_map, Option.map_map]
  rfl

/-- Adding goes to the tables or to the views, and to nothing else. -/
theorem addAll_eq : c.addAll additions =
    ⟨storeAll (tablesIn additions) c.tables, storeAll (viewsIn additions) c.views, c.outage⟩ := by
  induction additions generalizing c with
  | nil => rfl
  | cons addition rest ih =>
    rw [addAll, List.foldl_cons, ← addAll, ih]
    cases addition <;> rfl

theorem table?_addAll : (c.addAll additions).provider.table? n.database n.schema n.name =
    c.answer ((lastKeyed (tablesIn additions) n).or (Keyed.get? n.key c.tables)) := by
  rw [addAll_eq, ← get?_storeAll]
  rfl

theorem view?_addAll : (c.addAll additions).provider.view? n.database n.schema n.name =
    c.answer ((lastKeyed (viewsIn additions) n).or (Keyed.get? n.key c.views)) := by
  rw [addAll_eq, ← get?_storeAll]
  rfl

theorem filterMap_made {α β : Type} (make : α → Option β) (xs : List α) :
    (xs.filter (make · |>.isSome)).filterMap make = xs.filterMap make := by
  rw [List.filterMap_filter]
  congr 1
  funext x
  cases make x <;> rfl

/-- Views that are added change nothing about tables. -/
theorem table?_tables_only : (c.addAll additions).provider.table? =
    (c.addAll (additions.filter (·.table?.isSome))).provider.table? := by
  have tables : tablesIn (additions.filter (·.table?.isSome)) = tablesIn additions := by
    rw [tablesIn, filterMap_made, tablesIn]
  funext database schema name
  have asked := table?_addAll c additions ⟨database, schema, name⟩
  rwa [← tables, ← table?_addAll] at asked

/-- Tables that are added change nothing about views. -/
theorem view?_views_only : (c.addAll additions).provider.view? =
    (c.addAll (additions.filter (·.view?.isSome))).provider.view? := by
  have views : viewsIn (additions.filter (·.view?.isSome)) = viewsIn additions := by
    rw [viewsIn, filterMap_made, viewsIn]
  funext database schema name
  have asked := view?_addAll c additions ⟨database, schema, name⟩
  rwa [← views, ← view?_addAll] at asked

theorem tablesIn_titled : ∀ entry ∈ tablesIn additions, entry.2.table = entry.1.name := by
  intro entry member
  obtain ⟨t, _, rfl⟩ := List.mem_map.mp member
  rfl

theorem viewsIn_titled : ∀ entry ∈ viewsIn additions, entry.2.name = entry.1.name := by
  intro entry member
  obtain ⟨addition, _, added⟩ := List.mem_filterMap.mp member
  cases addition with
  | view n yaml =>
    cases added
    rfl
  | _ => cases added

end Runs

/-- What is said of a name after some additions is the last table and the last view of that name among them. -/
structure AnswersFor (additions : List Addition) (n : FullName) : Prop where
  table : (empty.addAll additions).provider.table? n.database n.schema n.name =
    .ok (lastNamed (tablesIn additions) n)
  view : (empty.addAll additions).provider.view? n.database n.schema n.name =
    .ok (lastNamed (viewsIn additions) n)

theorem answersFor_iff {additions : List Addition} {n : FullName} : AnswersFor additions n ↔
    lastKeyed (tablesIn additions) n = lastNamed (tablesIn additions) n ∧
      lastKeyed (viewsIn additions) n = lastNamed (viewsIn additions) n := by
  have table := table?_addAll empty additions n
  have view := view?_addAll empty additions n
  simp only [answer, empty, Keyed.get?, Option.or_none] at table view
  constructor
  · rintro ⟨forTable, forView⟩
    exact ⟨Except.ok.inj (table.symm.trans forTable), Except.ok.inj (view.symm.trans forView)⟩
  · rintro ⟨forTable, forView⟩
    exact ⟨table.trans (congrArg _ forTable), view.trans (congrArg _ forView)⟩

/-- A name is answered with the last table and the last view of that name, whatever is added, just if it has no dot;
and after some additions every name is, just if nothing of a name with a dot was added. Tables and views never affect
each other: what is said of tables is what is said if only tables are added, and likewise of views. -/
theorem found_by_name_iff (n : FullName) (additions : List Addition) (c : Catalog) :
    ((∀ history, AnswersFor history n) ↔ n.Dotless) ∧
    ((∀ m, AnswersFor additions m) ↔
      (∀ entry ∈ tablesIn additions, entry.1.Dotless) ∧ ∀ entry ∈ viewsIn additions, entry.1.Dotless) ∧
    (c.addAll additions).provider.table? = (c.addAll (additions.filter (·.table?.isSome))).provider.table? ∧
    (c.addAll additions).provider.view? = (c.addAll (additions.filter (·.view?.isSome))).provider.view? := by
  refine ⟨⟨fun all => ?_, fun plain history => ?_⟩, ?_, table?_tables_only c additions, view?_views_only c additions⟩
  · by_contra dotted
    obtain ⟨rival, sameKey, longer⟩ := FullName.exists_rival dotted
    have found := (answersFor_iff.mp (all [.view rival ""])).2
    have other : ¬ rival.Same n := fun same => longer same.name_length
    simp [lastKeyed, lastNamed, viewsIn, Addition.view?, sameKey, other] at found
  · have apart (m : FullName) : m.Same n ↔ m.key = n.key := FullName.same_iff_key (.inr plain)
    exact answersFor_iff.mpr ⟨lastKeyed_eq fun entry _ => apart entry.1, lastKeyed_eq fun entry _ => apart entry.1⟩
  · rw [← all_named_iff (tablesIn_titled additions), ← all_named_iff (viewsIn_titled additions), ← forall_and]
    exact forall_congr' fun n => answersFor_iff

/-- The orders of a database with a dot in its name are found in a schema of another database, where no table was
added. -/
theorem dotted_orders_found :
    let orders : LiveTable := ⟨"SALES.EU", "PUBLIC", "ORDERS", []⟩
    (empty.addAll [.table orders]).provider.table? "SALES" "EU.PUBLIC" "ORDERS" = .ok (some orders) ∧
    lastNamed (tablesIn [.table orders]) ⟨"SALES", "EU.PUBLIC", "ORDERS"⟩ = none ∧
    ¬ AnswersFor [.table orders] ⟨"SALES", "EU.PUBLIC", "ORDERS"⟩ := by
  intro orders
  have found : (empty.addAll [.table orders]).provider.table? "SALES" "EU.PUBLIC" "ORDERS" = .ok (some orders) := by
    decide
  have nowhere : lastNamed (tablesIn [.table orders]) ⟨"SALES", "EU.PUBLIC", "ORDERS"⟩ = none := by decide
  refine ⟨found, nowhere, fun answers => ?_⟩
  have table := answers.table
  rw [found, nowhere] at table
  cases table

end Catalog
end SemanticLayer
