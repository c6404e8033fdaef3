import SemanticLayer.Proofs.ComparedViews

/-! What a comparison of semantic views reports. A name of one collection is lost, extra or edited, or there is
nothing to say about it (`Differs`); and a collection is walked name by name, with one event at most for each
(`matchAt_cases`). So the events tell just the differences, each one once, and they are about the same elements
whichever of the two models is the expected one. Main statement: `comparison_exact`. -/
namespace SemanticLayer.Drift

/-! ### Differences -/

/-- The last thing in a list that has a name. -/
def LastOf (name : α → String) (xs : List α) (n : String) (x : α) : Prop :=
  name x = n ∧ ∃ before after, xs = before ++ x :: after ∧ n ∉ after.map name

/-- How two lists differ about a name: only the expected one has it, or only the deployed one, or the things that it
stands for are not alike. -/
inductive Differs (name : α → String) (Alike : α → α → Prop) (expected deployed : List α) (n : String) :
    DriftKind → Prop
  | lost (expects : n ∈ expected.map name) (gone : n ∉ deployed.map name) :
      Differs name Alike expected deployed n .yamlDivergence
  | extra (unexpected : n ∉ expected.map name) (deploys : n ∈ deployed.map name) :
      Differs name Alike expected deployed n .manualEditDetected
  | edited {x y : α} (before : LastOf name expected n x) (after : LastOf name deployed n y) (unlike : ¬ Alike x y) :
      Differs name Alike expected deployed n .manualEditDetected

/-- A collection of the things in a model. -/
inductive Collection where
  | table | relationship | fact
  deriving DecidableEq, Repr

namespace Collection

def all : List Collection := [.table, .relationship, .fact]

/-- The word for a thing in a collection. -/
def word : Collection → String
  | .table => "table"
  | .relationship => "relationship"
  | .fact => "fact"

/-- How events call the thing of a name. -/
def element (c : Collection) (n : String) : String := c.word ++ ":" ++ n

/-- How two models differ about a name: tables are alike in the same place, relationships with the same pairs of
columns, and facts with the same expression apart from blanks around it. -/
def Differs (c : Collection) (expected deployed : Model) (n : String) (kind : DriftKind) : Prop :=
  match c with
  | .table => Drift.Differs LogicalTable.name (fun t u => t.base = u.base) expected.tables deployed.tables n kind
  | .relationship => Drift.Differs Join.name (fun j k => ∀ pair, pair ∈ j.columns ↔ pair ∈ k.columns)
      expected.relationships deployed.relationships n kind
  | .fact => Drift.Differs Fact.name (fun f g => Text.trim f.expr = Text.trim g.expr)
      expected.facts deployed.facts n kind

/-- The names in a collection. -/
def names (c : Collection) (m : Model) : List String :=
  match c with
  | .table => m.tables.map LogicalTable.name
  | .relationship => m.relationships.map Join.name
  | .fact => m.facts.map Fact.name

/-- The differences that are found in a collection. -/
def drift (c : Collection) (expected deployed : Model) : List DriftEvent :=
  match c with
  | .table => tableDrift expected.tables deployed.tables
  | .relationship => joinDrift expected.relationships deployed.relationships
  | .fact => factDrift expected.facts deployed.facts

theorem mem_all (c : Collection) : c ∈ all := by
  cases c <;> decide

theorem element_injective {c d : Collection} {m n : String} (same : c.element m = d.element n) : c = d ∧ m = n := by
  have chars : c.word.toList ++ ':' :: m.toList = d.word.toList ++ ':' :: n.toList := by
    simpa [element] using congrArg String.toList same
  cases c <;> cases d <;> simp [word, String.toList_inj] at chars ⊢
  all_goals exact chars

end Collection

/-- The events report the differences of two models: each is about one thing, no thing has two, and there is one of a
kind just for what differs in this way. -/
structure Reports (expected deployed : Model) (events : List DriftEvent) : Prop where
  once : (events.map DriftEvent.element).Nodup
  about : ∀ event ∈ events, ∃ (c : Collection) (n : String), event.element = c.element n
  exact : ∀ (c : Collection) (n : String) (kind : DriftKind),
    (∃ event ∈ events, event.element = c.element n ∧ event.kind = kind) ↔ c.Differs expected deployed n kind

/-! ### Matching one collection -/

section Bearers
variable {name : α → String} {Alike : α → α → Prop} {xs ys : List α} {x y : α} {n : String} {k : DriftKind}

theorem find?_reverse_iff : xs.reverse.find? (name · = n) = some x ↔ LastOf name xs n x := by
  rw [List.find?_eq_some_iff_append, LastOf, decide_eq_true_eq]
  refine and_congr_right fun _ => ?_
  constructor
  · rintro ⟨later, earlier, parted, others⟩
    refine ⟨earlier.reverse, later.reverse, ?_, ?_⟩
    · rw [← List.reverse_reverse xs, parted]
      simp
    · simpa using others
  · rintro ⟨earlier, later, rfl, others⟩
    exact ⟨later.reverse, earlier.reverse, by simp, by simpa using others⟩

theorem find?_reverse_none : xs.reverse.find? (name · = n) = none ↔ n ∉ xs.map name := by
  rw [← find?_reverse_isSome, Option.not_isSome_iff_eq_none]

theorem LastOf.mem (last : LastOf name xs n x) : n ∈ xs.map name :=
  find?_reverse_isSome.mp (by rw [find?_reverse_iff.mpr last]; rfl)

theorem LastOf.unique (last : LastOf name xs n x) (lastToo : LastOf name xs n y) : x = y := by
  rw [← find?_reverse_iff] at last lastToo
  exact Option.some.inj (last.symm.trans lastToo)

theorem Differs.mem (differs : Differs name Alike xs ys n k) : n ∈ xs.map name ++ ys.map name := by
  cases differs with
  | lost expects _ => exact List.mem_append_left _ expects
  | extra _ deploys => exact List.mem_append_right _ deploys
  | edited before _ _ => exact List.mem_append_left _ before.mem

/-- What is lost from one list is extra in the other, and edits go both ways. -/
theorem Differs.reversed (symmetric : ∀ x y, Alike x y → Alike y x) (differs : Differs name Alike xs ys n k) :
    ∃ kind, Differs name Alike ys xs n kind := by
  cases differs with
  | lost expects gone => exact ⟨_, .extra gone expects⟩
  | extra unexpected deploys => exact ⟨_, .lost deploys unexpected⟩
  | edited before after unlike => exact ⟨_, .edited after before (mt (symmetric _ _) unlike)⟩

end Bearers

/-- Two things of a name are reported, as a manual edit and in one event, just if they are not alike. -/
def ReportsEdits (kind : String) (Alike : α → α → Prop) (both : String → α → α → List DriftEvent) : Prop :=
  ∀ n x y, Alike x y ∧ both n x y = [] ∨
    ¬ Alike x y ∧ ∃ message expected deployed, both n x y = [edited kind n message expected deployed]

/-- What matching reports of one name. -/
def matchAt (kind title : String) (name : α → String) (expected deployed : List α)
    (both : String → α → α → List DriftEvent) (n : String) : List DriftEvent :=
  match expected.reverse.find? (name · = n), deployed.reverse.find? (name · = n) with
  | some _, none =>
    [viewEvent .yamlDivergence s!"{kind}:{n}" s!"{title} '{n}' is missing from the deployed view"
      (.obj [("kind", .str kind)])]
  | none, some _ =>
    [viewEvent .manualEditDetected s!"{kind}:{n}" s!"{title} '{n}' exists only in the deployed view"
      (.obj [("kind", .str kind)])]
  | some x, some y => both n x y
  | none, none => []

section Matching
variable {kind title : String} {name : α → String} {xs ys : List α} {n : String}
  {both : String → α → α → List DriftEvent} {Alike : α → α → Prop} {k : DriftKind} {event : DriftEvent}

theorem matchLast_eq : matchLast kind title name xs ys both =
    (textSet (xs.map name ++ ys.map name)).flatMap (matchAt kind title name xs ys both) := rfl

/-- Of a name either nothing is reported, and the lists do not differ about it; or one event, which tells how they
do. -/
theorem matchAt_cases (reports : ReportsEdits kind Alike both) (title : String) (name : α → String)
    (xs ys : List α) (n : String) :
    (matchAt kind title name xs ys both n = [] ∧ ∀ k, ¬ Differs name Alike xs ys n k) ∨
    ∃ event, matchAt kind title name xs ys both n = [event] ∧ event.element = kind ++ ":" ++ n ∧
      ∀ k, Differs name Alike xs ys n k ↔ event.kind = k := by
  unfold matchAt
  cases before : xs.reverse.find? (name · = n) with
  | none =>
    have unexpected := find?_reverse_none.mp before
    cases after : ys.reverse.find? (name · = n) with
    | none =>
      refine .inl ⟨rfl, fun k differs => ?_⟩
      rcases List.mem_append.mp differs.mem with expects | deploys
      · exact unexpected expects
      · exact find?_reverse_none.mp after deploys
    | some y =>
      have deploys := (find?_reverse_iff.mp after).mem
      refine .inr ⟨_, rfl, rfl, fun k => ⟨fun differs => ?_, ?_⟩⟩
      · cases differs with
        | lost expects _ => exact absurd expects unexpected
        | extra _ _ => rfl
        | edited before _ _ => exact absurd before.mem unexpected
      · rintro rfl
        exact .extra unexpected deploys
  | some x =>
    have last := find?_reverse_iff.mp before
    cases after : ys.reverse.find? (name · = n) with
    | none =>
      have gone := find?_reverse_none.mp after
      refine .inr ⟨_, rfl, rfl, fun k => ⟨fun differs => ?_, ?_⟩⟩
      · cases differs with
        | lost _ _ => rfl
        | extra unexpected _ => exact absurd last.mem unexpected
        | edited _ after _ => exact absurd after.mem gone
      · rintro rfl
        exact .lost last.mem gone
    | some y =>
      have lastToo := find?_reverse_iff.mp after
      rcases reports n x y with ⟨alike, silent⟩ | ⟨unlike, message, was, now, told⟩
      · refine .inl ⟨silent, fun k differs => ?_⟩
        cases differs with
        | lost _ gone => exact gone lastToo.mem
        | extra unexpected _ => exact unexpected last.mem
        | edited before after unlike =>
          rw [before.unique last, after.unique lastToo] at unlike
          exact unlike alike
      · refine .inr ⟨_, told, rfl, fun k => ⟨fun differs => ?_, ?_⟩⟩
        · cases differs with
          | lost _ gone => exact absurd lastToo.mem gone
          | extra unexpected _ => exact absurd last.mem unexpected
          | edited _ _ _ => rfl
        · rintro rfl
          exact .edited last lastToo unlike

open Classical in
/-- The elements of the events are those of the names about which the lists differ, in their order. -/
theorem matchLast_elements (reports : ReportsEdits kind Alike both) :
    (matchLast kind title name xs ys both).map DriftEvent.element =
      ((textSet (xs.map name ++ ys.map name)).filter fun n => ∃ k, Differs name Alike xs ys n k).map
        (kind ++ ":" ++ ·) := by
  rw [matchLast_eq]
  induction textSet (xs.map name ++ ys.map name) with
  | nil => rfl
  | cons n rest ih =>
    rw [List.flatMap_cons, List.map_append, ih, List.filter_cons]
    rcases matchAt_cases reports title name xs ys n with ⟨silent, alike⟩ | ⟨event, told, element, differs⟩
    · simp [silent, alike]
    · simp [told, element, differs]

theorem mem_matchLast (reports : ReportsEdits kind Alike both) :
    (∃ event ∈ matchLast kind title name xs ys both, event.element = kind ++ ":" ++ n ∧ event.kind = k) ↔
      Differs name Alike xs ys n k := by
  rw [matchLast_eq]
  simp only [List.mem_flatMap, mem_textSet]
  constructor
  · rintro ⟨event, ⟨m, _, told⟩, element, rfl⟩
    rcases matchAt_cases reports title name xs ys m with ⟨silent, _⟩ | ⟨only, single, named, differs⟩
    · rw [silent] at told
      cases told
    · rw [single, List.mem_singleton] at told
      subst told
      obtain rfl : m = n := by simpa [String.append_right_inj] using named.symm.trans element
      exact (differs _).mpr rfl
  · intro differs
    rcases matchAt_cases reports title name xs ys n with ⟨_, alike⟩ | ⟨event, told, element, kinds⟩
    · exact absurd differs (alike k)
    · exact ⟨event, ⟨n, differs.mem, by simp [told]⟩, element, (kinds k).mp differs⟩

end Matching

/-! ### Each collection -/

section Edits
variable {kind : String} {Alike : α → α → Prop} {same : α → α → Prop} [DecidableRel same]
  {message : String → String} {shown : α → Json}

theorem reportsEdits_if (means : ∀ x y, same x y ↔ Alike x y) : ReportsEdits kind Alike fun n x y =>
    if same x y then [] else [edited kind n (message n) (shown x) (shown y)] := by
  intro n x y
  by_cases alike : same x y
  · exact .inl ⟨(means x y).mp alike, if_pos alike⟩
  · exact .inr ⟨mt (means x y).mpr alike, _, _, _, if_neg alike⟩

end Edits

namespace Collection
variable {c : Collection} {expected deployed : Model} {n : String} {k : DriftKind}

open Classical in
/-- The elements of the differences in a collection are those of the names about which the models differ. -/
theorem elements (c : Collection) (expected deployed : Model) :
    (c.drift expected deployed).map DriftEvent.element =
      ((textSet (c.names expected ++ c.names deployed)).filter fun n =>
        ∃ k, c.Differs expected deployed n k).map c.element := by
  cases c with
  | table => exact matchLast_elements (reportsEdits_if fun _ _ => .rfl)
  | relationship => exact matchLast_elements (reportsEdits_if fun _ _ => sameColumns_iff)
  | fact => exact matchLast_elements (reportsEdits_if fun _ _ => .rfl)

theorem mem_drift : (∃ event ∈ c.drift expected deployed, event.element = c.element n ∧ event.kind = k) ↔
    c.Differs expected deployed n k := by
  cases c with
  | table => exact mem_matchLast (reportsEdits_if fun _ _ => .rfl)
  | relationship => exact mem_matchLast (reportsEdits_if fun _ _ => sameColumns_iff)
  | fact => exact mem_matchLast (reportsEdits_if fun _ _ => .rfl)

theorem Differs.reversed (differs : c.Differs expected deployed n k) : ∃ kind, c.Differs deployed expected n kind := by
  cases c with
  | table => exact Drift.Differs.reversed (fun _ _ => Eq.symm) differs
  | relationship => exact Drift.Differs.reversed (fun _ _ same pair => (same pair).symm) differs
  | fact => exact Drift.Differs.reversed (fun _ _ => Eq.symm) differs

theorem elements_comm (c : Collection) (expected deployed : Model) :
    (c.drift expected deployed).map DriftEvent.element = (c.drift deployed expected).map DriftEvent.element := by
  have names : textSet (c.names expected ++ c.names deployed) = textSet (c.names deployed ++ c.names expected) :=
    textSet_congr fun n => by simp only [List.mem_append, or_comm]
  rw [elements, elements, names]
  congr 2
  funext n
  rw [decide_eq_decide]
  exact ⟨fun ⟨_, differs⟩ => differs.reversed, fun ⟨_, differs⟩ => differs.reversed⟩

/-- The names of a collection are walked once each, so no element comes twice. -/
theorem elements_nodup (c : Collection) (expected deployed : Model) :
    ((c.drift expected deployed).map DriftEvent.element).Nodup := by
  rw [elements]
  refine List.Nodup.map (fun _ _ same => (element_injective same).2) ?_
  exact ((textSet_increasing _).imp ne_of_lt).filter _

theorem exists_name {event : DriftEvent} (listed : event ∈ c.drift expected deployed) :
    ∃ n, event.element = c.element n := by
  have element := List.mem_map_of_mem (f := DriftEvent.element) listed
  rw [elements] at element
  obtain ⟨n, _, same⟩ := List.mem_map.mp element
  exact ⟨n, same.symm⟩

end Collection

/-! ### All collections -/

section Models
variable {expected deployed : Model} {event : DriftEvent}

theorem compareModels_eq (expected deployed : Model) :
    compareModels expected deployed = Collection.all.flatMap fun c => c.drift expected deployed := by
  simp [compareModels, Collection.all, Collection.drift]

theorem mem_compareModels :
    event ∈ compareModels expected deployed ↔ ∃ c : Collection, event ∈ c.drift expected deployed := by
  simp [compareModels_eq, Collection.mem_all]

theorem compareModels_elements (expected deployed : Model) :
    (compareModels expected deployed).map DriftEvent.element =
      Collection.all.flatMap fun c => (c.drift expected deployed).map DriftEvent.element := by
  rw [compareModels_eq, List.map_flatMap]

theorem compareModels_reports (expected deployed : Model) :
    Reports expected deployed (compareModels expected deployed) where
  once := by
    rw [compareModels_elements, List.nodup_flatMap]
    refine ⟨fun c _ => c.elements_nodup expected deployed, ?_⟩
    have apart : Collection.all.Pairwise (· ≠ ·) := by decide
    refine apart.imp fun {c d} different element left right => different ?_
    obtain ⟨_, listed, rfl⟩ := List.mem_map.mp left
    obtain ⟨_, listedToo, same⟩ := List.mem_map.mp right
    obtain ⟨m, here⟩ := Collection.exists_name listed
    obtain ⟨n, there⟩ := Collection.exists_name listedToo
    exact (Collection.element_injective (here.symm.trans (same.symm.trans there))).1
  about := by
    intro event listed
    obtain ⟨c, found⟩ := mem_compareModels.mp listed
    exact ⟨c, Collection.exists_name found⟩
  exact := by
    intro c n kind
    rw [← Collection.mem_drift]
    constructor
    · rintro ⟨event, listed, element, rfl⟩
      obtain ⟨d, found⟩ := mem_compareModels.mp listed
      obtain ⟨m, same⟩ := Collection.exists_name found
      obtain ⟨rfl, rfl⟩ := Collection.element_injective (element.symm.trans same)
      exact ⟨event, found, element, rfl⟩
    · rintro ⟨event, found, told⟩
      exact ⟨event, mem_compareModels.mpr ⟨c, found⟩, told⟩

end Models

/-- A comparison reports each difference of two models once and nothing else; with the models exchanged it is about
the same elements in the same order; and a model does not differ from itself. -/
theorem comparison_exact (expected deployed : Model) :
    Reports expected deployed (compareModels expected deployed) ∧
    (compareModels expected deployed).map DriftEvent.element =
      (compareModels deployed expected).map DriftEvent.element ∧
    compareModels expected expected = [] := by
  refine ⟨compareModels_reports expected deployed, ?_, compareModels_self expected⟩
  rw [compareModels_elements, compareModels_elements]
  exact congrArg Collection.all.flatMap (funext fun c => c.elements_comm expected deployed)

end SemanticLayer.Drift
