import SemanticLayer.Document.Validation
import SemanticLayer.Ontology.Normalize
import SemanticLayer.Proofs.BundleContents
import SemanticLayer.Proofs.NameMatching

/-! Which changes can be told apart. A report is asked for a change by its kind and by the full name of what was
changed. All things of one sort are walked name by name, each kind comes at most once under a name, and the kinds of
different sorts differ; so two changes can only be confused if they are about members of two objects, whose names are
joined with a dot that the names may have themselves. Main statement: `changes_identified_iff`. -/
namespace SemanticLayer

open Diff

/-! ### Changes that are told apart -/

/-- Two changes are of different kinds or about different elements. -/
def Change.Apart (c d : Change) : Prop := ¬ (c.kind = d.kind ∧ c.element = d.element)

/-- No two changes of a report have both their kind and their element in common, so that each is found by them. -/
structure ChangeReport.Identified (r : ChangeReport) : Prop where
  apart : r.changes.Pairwise Change.Apart
  only : ∀ c ∈ r.changes, r.changes.filter (fun d => d.kind = c.kind && d.element == c.element) = [c]
  found : ∀ c ∈ r.changes, r.find? c.kind c.element = some c

section Apart
variable {c d : Change} {changes : List Change}

theorem Change.Apart.symm (apart : c.Apart d) : d.Apart c := fun ⟨kind, element⟩ => apart ⟨kind.symm, element.symm⟩

theorem Change.apart_of_kind (other : c.kind ≠ d.kind) : c.Apart d := fun same => other same.1

theorem Change.apart_of_kinds {kinds more : List ChangeKind} (disjoint : ∀ kind ∈ kinds, kind ∉ more)
    (one : c.kind ∈ kinds) (two : d.kind ∈ more) : c.Apart d :=
  apart_of_kind fun same => disjoint _ one (same ▸ two)

theorem Change.apart_of_element (other : c.element ≠ d.element) : c.Apart d := fun same => other same.2

/-- Where changes are told apart, each is the only one of its kind about its element. -/
theorem filter_of_apart (apart : changes.Pairwise Change.Apart) (member : c ∈ changes) :
    changes.filter (fun d => d.kind = c.kind && d.element == c.element) = [c] := by
  have alike : ∀ d ∈ changes.filter (fun d => d.kind = c.kind && d.element == c.element),
      d.kind = c.kind ∧ d.element = c.element := fun d kept => by simpa using (List.mem_filter.mp kept).2
  have here : c ∈ changes.filter (fun d => d.kind = c.kind && d.element == c.element) :=
    List.mem_filter.mpr ⟨member, by simp⟩
  have kept := apart.filter (fun d => d.kind = c.kind && d.element == c.element)
  match same : changes.filter (fun d => d.kind = c.kind && d.element == c.element) with
  | [] => simp [same] at here
  | [d] =>
    rw [same, List.mem_singleton] at here
    exact same.trans (by rw [here])
  | d :: e :: _ =>
    rw [same] at kept alike
    have one := alike d (by simp)
    have two := alike e (by simp)
    exact absurd ⟨one.1.trans two.1.symm, one.2.trans two.2.symm⟩ (List.rel_of_pairwise_cons kept (by simp))

theorem ChangeReport.identified_iff (r : ChangeReport) : r.Identified ↔ r.changes.Pairwise Change.Apart := by
  refine ⟨Identified.apart, fun apart => ⟨apart, fun c => filter_of_apart apart, fun c member => ?_⟩⟩
  rw [find?, ← List.head?_filter, filter_of_apart apart member]
  rfl

end Apart

/-! ### Changes under one name -/

/-- The changes are about one element, and of some kinds in their order, each at most once. -/
structure About (element : String) (kinds : List ChangeKind) (changes : List Change) : Prop where
  kinds : (changes.map Change.kind).Sublist kinds
  element : ∀ c ∈ changes, c.element = element

section Names
variable {element : String} {kinds more : List ChangeKind} {changes others : List Change} {kind : ChangeKind}
  {name : α → String} {old new : List α} {added removed : α → List Change}
  {both : α → α → List Change}

theorem About.nil : About element kinds [] := ⟨List.nil_sublist _, List.forall_mem_nil _⟩

theorem About.append (first : About element kinds changes) (second : About element more others) :
    About element (kinds ++ more) (changes ++ others) :=
  ⟨by rw [List.map_append]; exact first.kinds.append second.kinds,
    List.forall_mem_append.mpr ⟨first.element, second.element⟩⟩

theorem About.weaken (about : About element kinds changes) (wider : kinds.Sublist more) : About element more changes :=
  ⟨about.kinds.trans wider, about.element⟩

theorem about_singleton {c : Change} (kind : ChangeKind) (told : c.kind = kind) (here : c.element = element) :
    About element [kind] [c] :=
  ⟨by rw [List.map_singleton, told], List.forall_mem_singleton.mpr here⟩

theorem about_if {p : Prop} [Decidable p] (one : About element kinds changes) (two : About element kinds others) :
    About element kinds (if p then changes else others) := by
  split
  · exact one
  · exact two

theorem mem_textChange {breaking : Bool} {was now : String} {c : Change}
    (told : c ∈ textChange kind breaking element was now) : was ≠ now ∧ c.kind = kind ∧ c.element = element := by
  unfold textChange at told
  split at told
  · cases told
  · rename_i other
    rw [List.mem_singleton.mp told]
    exact ⟨other, rfl, rfl⟩

theorem about_textChange {breaking : Bool} {was now : String} :
    About element [kind] (textChange kind breaking element was now) :=
  about_if .nil (about_singleton kind rfl rfl)

theorem About.apart (about : About element kinds changes) (distinct : kinds.Nodup) : changes.Pairwise Change.Apart := by
  have nodup := distinct.sublist about.kinds
  rw [List.Nodup, List.pairwise_map] at nodup
  exact nodup.imp Change.apart_of_kind

theorem About.kind_mem (about : About element kinds changes) {c : Change} (member : c ∈ changes) : c.kind ∈ kinds :=
  about.kinds.subset (List.mem_map_of_mem member)

/-- What matching reports under one name. -/
def matched (name : α → String) (old new : List α) (added removed : α → List Change)
    (both : α → α → List Change) (n : String) : List Change :=
  match old.find? (name · = n), new.find? (name · = n) with
  | none, some y => added y
  | some x, none => removed x
  | some x, some y => both x y
  | none, none => []

theorem byName_eq : byName name old new added removed both =
    (textSet (old.map name ++ new.map name)).flatMap (matched name old new added removed both) := rfl

/-- Where what is reported under a name is about one element for each name, all of it is told apart. -/
theorem byName_apart {full : String → String} (kinds : List ChangeKind) (injective : Function.Injective full)
    (distinct : kinds.Nodup)
    (onAdded : ∀ y, About (full (name y)) kinds (added y)) (onRemoved : ∀ x, About (full (name x)) kinds (removed x))
    (onBoth : ∀ x y, name x = name y → About (full (name y)) kinds (both x y)) :
    (byName name old new added removed both).Pairwise Change.Apart ∧
      ∀ c ∈ byName name old new added removed both, c.kind ∈ kinds := by
  have about (n : String) : About (full n) kinds (matched name old new added removed both n) := by
    unfold matched
    split
    · rename_i y _ after
      exact (find?_name after).2 ▸ onAdded y
    · rename_i x before _
      exact (find?_name before).2 ▸ onRemoved x
    · rename_i x y before after
      have named := (find?_name after).2
      exact named ▸ onBoth x y ((find?_name before).2.trans named.symm)
    · exact .nil
  rw [byName_eq]
  constructor
  · rw [List.pairwise_flatMap]
    refine ⟨fun n _ => (about n).apart distinct, (textSet_increasing _).imp fun less c member d other => ?_⟩
    refine Change.apart_of_element fun same => ?_
    rw [(about _).element c member, (about _).element d other] at same
    exact less.ne (injective same)
  · intro c member
    obtain ⟨n, _, reported⟩ := List.mem_flatMap.mp member
    exact (about n).kind_mem reported

end Names

/-! ### Members of objects -/

/-- The full name of an identifier or a property of an object. -/
def fullName (object member : String) : String := s!"{object}.{member}"

/-- An object has identifiers in both versions, and none of them in both. -/
def Object.Replaced (x y : Object) : Prop :=
  x.identifiers ≠ [] ∧ y.identifiers ≠ [] ∧ ∀ id ∈ x.identifiers, id ∉ y.identifiers

/-- How an identifier or a property of an object changes. -/
inductive Object.MemberChanged (x y : Object) : ChangeKind → String → Prop
  | identifierRemoved {id : String} (partly : ¬ x.Replaced y) (was : id ∈ x.identifiers) (gone : id ∉ y.identifiers) :
      MemberChanged x y .identifierRemoved id
  | identifierAdded {id : String} (partly : ¬ x.Replaced y) (fresh : id ∉ x.identifiers) (now : id ∈ y.identifiers) :
      MemberChanged x y .identifierAdded id
  | propertyRemoved {n : String} {p : Property} (was : x.property? n = some p) (gone : y.property? n = none) :
      MemberChanged x y .propertyRemoved n
  | propertyAdded {n : String} {q : Property} (fresh : x.property? n = none) (now : y.property? n = some q) :
      MemberChanged x y .propertyAdded n
  | propertyTypeChanged {n : String} {p q : Property} (was : x.property? n = some p) (now : y.property? n = some q)
      (other : p.type ≠ q.type) : MemberChanged x y .propertyTypeChanged n
  | propertyDescriptionChanged {n : String} {p q : Property} (was : x.property? n = some p)
      (now : y.property? n = some q) (other : p.description ≠ q.description) :
      MemberChanged x y .propertyDescriptionChanged n

/-- How an identifier or a property of the object with a name changes between two versions. -/
def Ontology.MemberChanged (old new : Ontology) (object : String) (kind : ChangeKind) (member : String) : Prop :=
  ∃ x y, old.object? object = some x ∧ new.object? object = some y ∧ x.MemberChanged y kind member

/-- Members of two objects change in the same way and have the same full name. -/
structure Ontology.Clash (old new : Ontology) (object other : String) : Prop where
  different : object ≠ other
  confused : ∃ kind member rival, old.MemberChanged new object kind member ∧ old.MemberChanged new other kind rival ∧
    fullName object member = fullName other rival

/-- The kinds of changes that are about an object as a whole. -/
def ownKinds : List ChangeKind :=
  [.objectAdded, .objectRemoved, .objectDescriptionChanged, .identifierReplaced]

def identifierKinds : List ChangeKind := [.identifierRemoved, .identifierAdded]

def propertyKinds : List ChangeKind :=
  [.propertyAdded, .propertyRemoved, .propertyTypeChanged, .propertyDescriptionChanged]

section Members
variable {x y : Object} {kind : ChangeKind} {member object : String} {c : Change} {old new : Ontology}

theorem fullName_injective (object : String) : Function.Injective (fullName object) := by
  intro member other same
  exact (String.append_right_inj (object ++ ".")).mp same

theorem Object.MemberChanged.kind_mem (changed : x.MemberChanged y kind member) :
    kind ∈ identifierKinds ++ propertyKinds := by
  cases changed <;> decide

/-- The identifiers that only the first of two objects has. -/
def lostIdentifiers (x y : Object) : List String :=
  (textSet x.identifiers).filter fun id => !(textSet y.identifiers).contains id

theorem mem_lostIdentifiers {id : String} : id ∈ lostIdentifiers x y ↔ id ∈ x.identifiers ∧ id ∉ y.identifiers := by
  simp [lostIdentifiers]

theorem lostIdentifiers_increasing (x y : Object) : (lostIdentifiers x y).Pairwise (· < ·) :=
  (textSet_increasing _).filter _

theorem textSet_isEmpty {texts : List String} : (textSet texts).isEmpty = true ↔ texts = [] := by
  rw [List.isEmpty_iff, List.eq_nil_iff_forall_not_mem, List.eq_nil_iff_forall_not_mem]
  simp only [mem_textSet]

@[simp] theorem change_kind {breaking : Bool} {element : String} {was now : Option Json} :
    (change kind breaking element was now).kind = kind := rfl

theorem replaced_iff : (!(textSet x.identifiers).isEmpty && !(textSet y.identifiers).isEmpty &&
    !(textSet x.identifiers).any (textSet y.identifiers).contains) = true ↔ x.Replaced y := by
  simp only [Bool.and_eq_true, Bool.not_eq_true', ← Bool.not_eq_true, textSet_isEmpty, Object.Replaced, and_assoc]
  simp

theorem identifiers_replaced (all : x.Replaced y) :
    ∃ c, identifiers x y = [c] ∧ c.kind = .identifierReplaced ∧ c.element = x.name := by
  obtain ⟨id, member⟩ := List.exists_mem_of_ne_nil _ all.1
  have lost : id ∈ lostIdentifiers x y := mem_lostIdentifiers.mpr ⟨member, all.2.2 id member⟩
  have some : (lostIdentifiers x y).isEmpty = false := by
    rw [List.isEmpty_eq_false_iff]
    exact List.ne_nil_of_mem lost
  unfold identifiers
  rw [lostIdentifiers] at some
  simp only [some, Bool.false_and, Bool.false_eq_true, if_false, replaced_iff.mpr all, if_true]
  exact ⟨_, rfl, rfl, rfl⟩

theorem identifiers_partly (partly : ¬ x.Replaced y) : identifiers x y =
    ((lostIdentifiers x y).map fun id =>
      change .identifierRemoved true (fullName x.name id) (some (.str id)) none) ++
    (lostIdentifiers y x).map fun id => change .identifierAdded false (fullName y.name id) none (some (.str id)) := by
  unfold identifiers
  rw [← replaced_iff] at partly
  simp only [partly]
  split
  · rename_i none
    rw [Bool.and_eq_true, List.isEmpty_iff, List.isEmpty_iff] at none
    simp only [lostIdentifiers, none, List.map_nil, List.append_nil]
  · rfl

/-- What is reported of the identifiers of an object is told apart. -/
theorem identifiers_apart (x y : Object) : (identifiers x y).Pairwise Change.Apart := by
  by_cases all : x.Replaced y
  · obtain ⟨c, same, _⟩ := identifiers_replaced all
    rw [same]
    exact List.pairwise_singleton _ c
  · rw [identifiers_partly all, List.pairwise_append, List.pairwise_map, List.pairwise_map]
    refine ⟨?_, ?_, fun c removed d added => ?_⟩
    · exact (lostIdentifiers_increasing x y).imp fun less =>
        Change.apart_of_element fun same => less.ne (fullName_injective x.name same)
    · exact (lostIdentifiers_increasing y x).imp fun less =>
        Change.apart_of_element fun same => less.ne (fullName_injective y.name same)
    · obtain ⟨_, _, rfl⟩ := List.mem_map.mp removed
      obtain ⟨_, _, rfl⟩ := List.mem_map.mp added
      exact Change.apart_of_kind (by simp)

/-- A change of the identifiers is about all of them, or about one that was removed or added. -/
theorem mem_identifiers (named : x.name = y.name) (member : c ∈ identifiers x y) :
    (c.kind = .identifierReplaced ∧ c.element = y.name) ∨
      c.kind ∈ identifierKinds ∧ ∃ id, x.MemberChanged y c.kind id ∧ c.element = fullName y.name id := by
  by_cases all : x.Replaced y
  · obtain ⟨d, same, kind, element⟩ := identifiers_replaced all
    rw [same, List.mem_singleton] at member
    rw [member]
    exact .inl ⟨kind, element.trans named⟩
  · rw [identifiers_partly all, List.mem_append, List.mem_map, List.mem_map] at member
    obtain ⟨id, lost, rfl⟩ | ⟨id, lost, rfl⟩ := member
    · obtain ⟨was, gone⟩ := mem_lostIdentifiers.mp lost
      exact .inr ⟨by simp [identifierKinds], id, .identifierRemoved all was gone, named ▸ rfl⟩
    · obtain ⟨now, fresh⟩ := mem_lostIdentifiers.mp lost
      exact .inr ⟨by simp [identifierKinds], id, .identifierAdded all fresh now, rfl⟩

/-- What is reported of the properties of an object is told apart. -/
theorem properties_apart (x y : Object) : (properties x y).Pairwise Change.Apart ∧
    ∀ c ∈ properties x y, c.kind ∈ propertyKinds := by
  refine byName_apart propertyKinds (fullName_injective y.name) (by decide) (fun q => ?_) (fun p => ?_) fun p q _ => ?_
  · exact .weaken (about_singleton .propertyAdded rfl rfl) (by decide)
  · exact .weaken (about_singleton .propertyRemoved rfl rfl) (by decide)
  · exact .weaken (.append (about_if .nil (about_singleton .propertyTypeChanged rfl rfl)) about_textChange) (by decide)

theorem mem_properties (member : c ∈ properties x y) :
    ∃ n, x.MemberChanged y c.kind n ∧ c.element = fullName y.name n := by
  obtain ⟨n, q, fresh, now, told⟩ | ⟨n, p, was, gone, told⟩ | ⟨n, p, q, was, now, told⟩ := mem_byName.mp member
  · rw [List.mem_singleton.mp told]
    exact ⟨n, .propertyAdded fresh now, by rw [← (find?_name now).2]; rfl⟩
  · rw [List.mem_singleton.mp told]
    exact ⟨n, .propertyRemoved was gone, by rw [← (find?_name was).2]; rfl⟩
  · obtain rfl := (find?_name now).2
    refine ⟨q.name, ?_⟩
    obtain type | description := List.mem_append.mp told
    · split at type
      · cases type
      · rename_i other
        rw [List.mem_singleton.mp type]
        exact ⟨.propertyTypeChanged was now other, rfl⟩
    · obtain ⟨other, kind, element⟩ := mem_textChange description
      rw [kind]
      exact ⟨.propertyDescriptionChanged was now other, element⟩

/-- Every change of a member is reported, under its full name. -/
theorem member_reported (named : x.name = y.name) (changed : x.MemberChanged y kind member) :
    ∃ c ∈ identifiers x y ++ properties x y, c.kind = kind ∧ c.element = fullName y.name member := by
  cases changed with
  | identifierRemoved partly was gone =>
    rw [identifiers_partly partly]
    have lost := mem_lostIdentifiers.mpr ⟨was, gone⟩
    exact ⟨_, List.mem_append_left _ (List.mem_append_left _ (List.mem_map_of_mem lost)), rfl, named ▸ rfl⟩
  | identifierAdded partly fresh now =>
    rw [identifiers_partly partly]
    have found := mem_lostIdentifiers.mpr ⟨now, fresh⟩
    exact ⟨_, List.mem_append_left _ (List.mem_append_right _ (List.mem_map_of_mem found)), rfl, rfl⟩
  | propertyRemoved was gone =>
    obtain rfl := (find?_name was).2
    exact ⟨_, List.mem_append_right _ (mem_byName.mpr (.inr (.inl ⟨_, _, was, gone, List.mem_singleton_self _⟩))),
      rfl, rfl⟩
  | propertyAdded fresh now =>
    obtain rfl := (find?_name now).2
    exact ⟨_, List.mem_append_right _ (mem_byName.mpr (.inl ⟨_, _, fresh, now, List.mem_singleton_self _⟩)), rfl, rfl⟩
  | @propertyTypeChanged _ p q was now other =>
    obtain rfl := (find?_name now).2
    refine ⟨change .propertyTypeChanged true (fullName y.name q.name) (some p.type.toJson) (some q.type.toJson),
      List.mem_append_right _ (mem_byName.mpr (.inr (.inr ⟨q.name, p, q, was, now, List.mem_append_left _ ?_⟩))),
      rfl, rfl⟩
    rw [if_neg other]
    exact List.mem_singleton_self _
  | @propertyDescriptionChanged _ p q was now other =>
    obtain rfl := (find?_name now).2
    refine ⟨change .propertyDescriptionChanged false (fullName y.name q.name) (some (.str p.description))
        (some (.str q.description)),
      List.mem_append_right _ (mem_byName.mpr (.inr (.inr ⟨q.name, p, q, was, now, List.mem_append_right _ ?_⟩))),
      rfl, rfl⟩
    rw [textChange, if_neg other]
    exact List.mem_singleton_self _

end Members

/-! ### Objects -/

/-- What is reported of the object with a name. -/
def objectChanges (old new : Ontology) : String → List Change :=
  matched Object.name old.objects new.objects (fun o => [change .objectAdded false o.name none (some (.str o.name))])
    (fun o => [change .objectRemoved true o.name (some (.str o.name)) none])
    fun o p => textChange .objectDescriptionChanged false p.name o.description p.description
      ++ identifiers o p ++ properties o p

section Objects
variable {x y : Object} {kind : ChangeKind} {member object other : String} {c : Change} {old new : Ontology}

theorem objects_eq (old new : Ontology) : objects old new =
    (textSet (old.objects.map Object.name ++ new.objects.map Object.name)).flatMap (objectChanges old new) := rfl

/-- What is reported of two bearers of a name is about the object as a whole, or about a member that changes. -/
theorem mem_both (named : x.name = y.name) (told : c ∈ textChange .objectDescriptionChanged false y.name x.description
      y.description ++ identifiers x y ++ properties x y) :
    (c.kind ∈ ownKinds ∧ c.element = y.name) ∨ ∃ m, x.MemberChanged y c.kind m ∧ c.element = fullName y.name m := by
  rw [List.mem_append, List.mem_append] at told
  obtain (description | identifier) | property := told
  · obtain ⟨_, kind, element⟩ := mem_textChange description
    exact .inl ⟨by simp [kind, ownKinds], element⟩
  · obtain ⟨kind, element⟩ | ⟨_, one⟩ := mem_identifiers named identifier
    · exact .inl ⟨by simp [kind, ownKinds], element⟩
    · exact .inr one
  · exact .inr (mem_properties property)

theorem mem_objectChanges (told : c ∈ objectChanges old new object) :
    (c.kind ∈ ownKinds ∧ c.element = object) ∨
      ∃ m, old.MemberChanged new object c.kind m ∧ c.element = fullName object m := by
  unfold objectChanges matched at told
  split at told
  · rename_i y _ after
    rw [List.mem_singleton.mp told]
    exact .inl ⟨by simp [ownKinds], (find?_name after).2⟩
  · rename_i x before _
    rw [List.mem_singleton.mp told]
    exact .inl ⟨by simp [ownKinds], (find?_name before).2⟩
  · rename_i x y before after
    have named := (find?_name after).2
    obtain own | ⟨m, changed, element⟩ := mem_both ((find?_name before).2.trans named.symm) told
    · exact .inl ⟨own.1, own.2.trans named⟩
    · exact .inr ⟨m, ⟨x, y, before, after, changed⟩, named ▸ element⟩
  · cases told

theorem memberChanged_reported (changed : old.MemberChanged new object kind member) :
    ∃ c ∈ objectChanges old new object, c.kind = kind ∧ c.element = fullName object member := by
  obtain ⟨x, y, before, after, changed⟩ := changed
  have named := (find?_name after).2
  obtain ⟨c, told, here⟩ := member_reported ((find?_name before).2.trans named.symm) changed
  rw [Ontology.object?] at before after
  refine ⟨c, ?_, named ▸ here⟩
  simp only [objectChanges, matched, before, after, List.append_assoc]
  exact List.mem_append_right _ told

/-- What is reported of one object is told apart. -/
theorem objectChanges_apart (old new : Ontology) (object : String) :
    (objectChanges old new object).Pairwise Change.Apart := by
  unfold objectChanges matched
  split
  · exact List.pairwise_singleton _ _
  · exact List.pairwise_singleton _ _
  · rename_i x y before after
    have named := (find?_name before).2.trans (find?_name after).2.symm
    have identifierKind : ∀ c ∈ identifiers x y, c.kind ∈ .identifierReplaced :: identifierKinds := by
      intro c member
      obtain ⟨kind, _⟩ | ⟨kind, _⟩ := mem_identifiers named member
      · exact kind ▸ List.mem_cons_self
      · exact List.mem_cons_of_mem _ kind
    obtain ⟨propertiesApart, propertyKind⟩ := properties_apart x y
    dsimp only
    rw [List.append_assoc, List.pairwise_append, List.pairwise_append]
    refine ⟨about_textChange.apart (List.nodup_singleton _), ⟨identifiers_apart x y, propertiesApart, ?_⟩, ?_⟩
    · intro c identifier d property
      exact Change.apart_of_kinds (by decide) (identifierKind c identifier) (propertyKind d property)
    · intro c description d member
      have first : c.kind ∈ [.objectDescriptionChanged] := List.mem_singleton.mpr (mem_textChange description).2.1
      have second : d.kind ∈ (.identifierReplaced :: identifierKinds) ++ propertyKinds :=
        List.mem_append.mpr ((List.mem_append.mp member).imp (identifierKind d) (propertyKind d))
      exact Change.apart_of_kinds (by decide) first second
  · exact List.Pairwise.nil

theorem mem_ofObjects (told : c ∈ objects old new) : c.kind ∈ ownKinds ++ (identifierKinds ++ propertyKinds) := by
  rw [objects_eq] at told
  obtain ⟨object, _, told⟩ := List.mem_flatMap.mp told
  obtain ⟨own, _⟩ | ⟨m, ⟨x, y, _, _, changed⟩, _⟩ := mem_objectChanges told
  · exact List.mem_append_left _ own
  · exact List.mem_append_right _ changed.kind_mem

/-- What is reported of two objects is told apart unless they clash. -/
theorem objectChanges_apart_of_not_clash (different : object ≠ other) (clear : ¬ old.Clash new object other) :
    ∀ c ∈ objectChanges old new object, ∀ d ∈ objectChanges old new other, c.Apart d := by
  intro c told d toldToo ⟨kind, element⟩
  obtain ⟨own, here⟩ | ⟨m, changed, here⟩ := mem_objectChanges told <;>
    obtain ⟨ownToo, there⟩ | ⟨n, changedToo, there⟩ := mem_objectChanges toldToo
  · exact different (here.symm.trans (element.trans there))
  · obtain ⟨x, y, _, _, changedToo⟩ := changedToo
    exact Change.apart_of_kinds (by decide) own changedToo.kind_mem ⟨kind, element⟩
  · obtain ⟨x, y, _, _, changed⟩ := changed
    exact Change.apart_of_kinds (by decide) ownToo changed.kind_mem ⟨kind.symm, element.symm⟩
  · exact clear ⟨different, c.kind, m, n, changed, kind ▸ changedToo, here.symm.trans (element.trans there)⟩

theorem objects_apart_iff : (objects old new).Pairwise Change.Apart ↔ ∀ object other, ¬ old.Clash new object other := by
  rw [objects_eq, List.pairwise_flatMap]
  constructor
  · rintro ⟨_, apart⟩ object other ⟨different, kind, member, rival, changed, changedToo, same⟩
    have walked {object member : String} (changed : old.MemberChanged new object kind member) :
        object ∈ textSet (old.objects.map Object.name ++ new.objects.map Object.name) := by
      obtain ⟨x, _, before, _⟩ := changed
      exact mem_textSet.mpr (List.mem_append_left _ (find?_name_isSome.mp (Option.isSome_of_eq_some before)))
    obtain ⟨c, told, kindHere, here⟩ := memberChanged_reported changed
    obtain ⟨d, toldToo, kindThere, there⟩ := memberChanged_reported changedToo
    have symmetric : Std.Symm fun a b => ∀ c ∈ objectChanges old new a, ∀ d ∈ objectChanges old new b, c.Apart d :=
      ⟨fun _ _ apart c told d toldToo => (apart d toldToo c told).symm⟩
    exact apart.forall (walked changed) (walked changedToo) different c told d toldToo
      ⟨kindHere.trans kindThere.symm, here.trans (same.trans there.symm)⟩
  · intro clear
    refine ⟨fun object _ => objectChanges_apart old new object, (textSet_increasing _).imp fun less => ?_⟩
    exact objectChanges_apart_of_not_clash less.ne (clear _ _)

end Objects

/-! ### Other things -/

def relationshipKinds : List ChangeKind :=
  [.relationshipAdded, .relationshipRemoved, .relationshipEndpointsChanged, .relationshipJoinKeysChanged,
    .relationshipCardinalityTightened, .relationshipCardinalityRelaxed, .relationshipDescriptionChanged]

def metricKinds : List ChangeKind :=
  [.metricAdded, .metricRemoved, .metricExpressionChanged, .metricGrainChanged, .metricDescriptionChanged]

def dimensionKinds : List ChangeKind := [.dimensionAdded, .dimensionRemoved, .dimensionDescriptionChanged]

section Others
variable (old new : Ontology)

/-- A cardinality is tightened or relaxed, not both. -/
theorem about_cardinality (r s : Relationship) :
    About s.name [.relationshipCardinalityTightened, .relationshipCardinalityRelaxed] (cardinality r s) := by
  unfold cardinality
  refine about_if (.weaken (about_singleton .relationshipCardinalityTightened rfl rfl) (by decide))
    (about_if (.weaken (about_singleton .relationshipCardinalityRelaxed rfl rfl) (by decide)) .nil)

theorem relationships_apart : (relationships old new).Pairwise Change.Apart ∧
    ∀ c ∈ relationships old new, c.kind ∈ relationshipKinds := by
  refine byName_apart relationshipKinds Function.injective_id (by decide) (fun s => ?_) (fun r => ?_) fun r s _ => ?_
  · exact .weaken (about_singleton .relationshipAdded rfl rfl) (by decide)
  · exact .weaken (about_singleton .relationshipRemoved rfl rfl) (by decide)
  · exact .weaken (.append (.append (.append (about_if .nil (about_singleton .relationshipEndpointsChanged rfl rfl))
      (about_if .nil (about_singleton .relationshipJoinKeysChanged rfl rfl))) (about_cardinality r s))
      about_textChange) (by decide)

theorem metrics_apart : (metrics old new).Pairwise Change.Apart ∧ ∀ c ∈ metrics old new, c.kind ∈ metricKinds := by
  refine byName_apart metricKinds Function.injective_id (by decide) (fun n => ?_) (fun m => ?_) fun m n _ => ?_
  · exact .weaken (about_singleton .metricAdded rfl rfl) (by decide)
  · exact .weaken (about_singleton .metricRemoved rfl rfl) (by decide)
  · exact .weaken (.append (.append about_textChange (about_if .nil (about_singleton .metricGrainChanged rfl rfl)))
      about_textChange) (by decide)

/-- A dimension is removed or exposes another property, which is reported alike, not both. -/
theorem dimensions_apart : (dimensions old new).Pairwise Change.Apart ∧
    ∀ c ∈ dimensions old new, c.kind ∈ dimensionKinds := by
  refine byName_apart dimensionKinds Function.injective_id (by decide) (fun e => ?_) (fun d => ?_) fun d e _ => ?_
  · exact .weaken (about_singleton .dimensionAdded rfl rfl) (by decide)
  · exact .weaken (about_singleton .dimensionRemoved rfl rfl) (by decide)
  · exact .weaken (.append (about_if .nil (about_singleton .dimensionRemoved rfl rfl)) about_textChange) (by decide)

/-- What is reported of different sorts of things is of different kinds. -/
theorem diff_apart_iff : ((diff old new).changes.Pairwise Change.Apart) ↔ (objects old new).Pairwise Change.Apart := by
  obtain ⟨relationshipsApart, relationshipKind⟩ := relationships_apart old new
  obtain ⟨metricsApart, metricKind⟩ := metrics_apart old new
  obtain ⟨dimensionsApart, dimensionKind⟩ := dimensions_apart old new
  refine ((report_changes _).pairwise_iff fun apart => apart.symm).trans ?_
  simp only [List.pairwise_append, List.mem_append]
  constructor
  · rintro ⟨⟨⟨apart, _⟩, _⟩, _⟩
    exact apart
  · intro apart
    refine ⟨⟨⟨apart, relationshipsApart, ?_⟩, metricsApart, ?_⟩, dimensionsApart, ?_⟩
    · exact fun c object d relationship =>
        Change.apart_of_kinds (by decide) (mem_ofObjects object) (relationshipKind d relationship)
    · rintro c (object | relationship) d metric
      · exact Change.apart_of_kinds (by decide) (mem_ofObjects object) (metricKind d metric)
      · exact Change.apart_of_kinds (by decide) (relationshipKind c relationship) (metricKind d metric)
    · rintro c ((object | relationship) | metric) d dimension
      · exact Change.apart_of_kinds (by decide) (mem_ofObjects object) (dimensionKind d dimension)
      · exact Change.apart_of_kinds (by decide) (relationshipKind c relationship) (dimensionKind d dimension)
      · exact Change.apart_of_kinds (by decide) (metricKind c metric) (dimensionKind d dimension)

end Others

/-! ### Names with dots -/

/-- No object of a version has a dot in its name, or no property and no identifier has one. -/
def Undotted (old new : Ontology) : Prop :=
  (∀ x ∈ new.objects, '.' ∉ x.name.toList) ∨
    ∀ x ∈ old.objects ++ new.objects,
      (∀ p ∈ x.properties, '.' ∉ p.name.toList) ∧ ∀ id ∈ x.identifiers, '.' ∉ id.toList

section Dots
variable {object other member rival : String} {x y : Object} {kind : ChangeKind} {old new : Ontology}

theorem fullName_toList (object member : String) :
    (fullName object member).toList = object.toList ++ '.' :: member.toList := by
  have parts : fullName object member = object ++ "." ++ member := rfl
  simp [parts]

theorem object_of_fullName (same : fullName object member = fullName other rival) (plain : '.' ∉ object.toList)
    (plainToo : '.' ∉ other.toList) : object = other := by
  have chars := congrArg String.toList same
  rw [fullName_toList, fullName_toList] at chars
  exact String.toList_inj.mp (cut_first plain plainToo chars).1

theorem object_of_fullName_last (same : fullName object member = fullName other rival) (plain : '.' ∉ member.toList)
    (plainToo : '.' ∉ rival.toList) : object = other := by
  have chars := congrArg (fun name => name.toList.reverse) same
  simp only [fullName_toList, List.reverse_append, List.reverse_cons, List.append_assoc, List.singleton_append] at chars
  have front := (cut_first (by simpa using plain) (by simpa using plainToo) chars).2
  exact String.toList_inj.mp (List.reverse_injective front)

/-- A member that changes is an identifier or a property of one of the two versions of its object. -/
theorem Object.MemberChanged.plain (changed : x.MemberChanged y kind member)
    (before : (∀ p ∈ x.properties, '.' ∉ p.name.toList) ∧ ∀ id ∈ x.identifiers, '.' ∉ id.toList)
    (after : (∀ p ∈ y.properties, '.' ∉ p.name.toList) ∧ ∀ id ∈ y.identifiers, '.' ∉ id.toList) :
    '.' ∉ member.toList := by
  cases changed with
  | identifierRemoved _ was _ => exact before.2 _ was
  | identifierAdded _ _ now => exact after.2 _ now
  | propertyRemoved was _ => exact (find?_name was).2 ▸ before.1 _ (find?_name was).1
  | propertyAdded _ now => exact (find?_name now).2 ▸ after.1 _ (find?_name now).1
  | propertyTypeChanged was _ _ => exact (find?_name was).2 ▸ before.1 _ (find?_name was).1
  | propertyDescriptionChanged was _ _ => exact (find?_name was).2 ▸ before.1 _ (find?_name was).1

/-- Where dots only part the names of objects from those of members, nothing clashes. -/
theorem Undotted.not_clash (undotted : Undotted old new) : ¬ old.Clash new object other := by
  rintro ⟨different, kind, member, rival, ⟨x, y, before, after, changed⟩, ⟨z, w, beforeToo, afterToo, changedToo⟩, same⟩
  refine different ?_
  obtain ⟨here, named⟩ := find?_name after
  obtain ⟨there, namedToo⟩ := find?_name afterToo
  obtain objects | members := undotted
  · exact object_of_fullName same (named ▸ objects y here) (namedToo ▸ objects w there)
  · refine object_of_fullName_last same (changed.plain ?_ ?_) (changedToo.plain ?_ ?_)
    · exact members x (List.mem_append_left _ (find?_name before).1)
    · exact members y (List.mem_append_right _ here)
    · exact members z (List.mem_append_left _ (find?_name beforeToo).1)
    · exact members w (List.mem_append_right _ there)

end Dots

/-- Between any two versions, each change is the only one of its kind about its element, and is found by them, exactly
if no two objects clash, that is, no members of two objects change in the same way and have the same full name. They
do not if no object has a dot in its name, or if no member has one. -/
theorem changes_identified_iff (old new : Ontology) :
    ((diff old new).Identified ↔ ∀ object other, ¬ old.Clash new object other) ∧
      (Undotted old new → (diff old new).Identified) := by
  have exact : (diff old new).Identified ↔ ∀ object other, ¬ old.Clash new object other := by
    rw [ChangeReport.identified_iff, diff_apart_iff, objects_apart_iff]
  exact ⟨exact, fun undotted => exact.mpr fun _ _ => undotted.not_clash⟩

/-- A document with orders and order lines that have some properties. -/
def ordersWith (order line : List Json) : Json :=
  .obj [("objects", .arr [
      .obj [("name", .str "Order"), ("properties", .arr order)],
      .obj [("name", .str "Order.line"), ("properties", .arr line)]]),
    ("version", .str "1")]

/-- A property of a type. -/
def propertyOf (name type : String) : Json := .obj [("name", .str name), ("type", .str type)]

/-- What such a document describes if there is nothing to sort but the two objects. -/
def ordersOf (order line : List Property) : Ontology :=
  ⟨"1", "ontology", "", [⟨"Order", "", [], order, none, none, none⟩, ⟨"Order.line", "", [], line, none, none, none⟩],
    [], [], [], none⟩

theorem sortedBy_short {first second : α → String} {xs : List α} (short : xs.length ≤ 1) :
    sortedBy first second xs = xs := by
  match xs with
  | [] => exact List.mergeSort_nil
  | [x] => exact List.mergeSort_singleton x
  | _ :: _ :: _ => simp at short

theorem normalize_ordersWith {order line : List Json} (few : order.length ≤ 1) (fewToo : line.length ≤ 1) :
    normalize (ordersWith order line) = ordersOf ((order.filter Json.isObj).map Normalize.property)
      ((line.filter Json.isObj).map Normalize.property) := by
  have before : "Order" < "Order.line" := by decide
  have objects : sortedBy Object.name Object.canonical
      (((ordersWith order line).records "objects").map Normalize.object) =
      ((ordersWith order line).records "objects").map Normalize.object :=
    List.mergeSort_of_pairwise (List.pairwise_pair.mpr (Bool.or_eq_true_iff.mpr (.inl (decide_eq_true before))))
  have properties {items : List Json} (few : items.length ≤ 1) :
      sortedBy Property.name Property.canonical ((items.filter Json.isObj).map Normalize.property) =
        (items.filter Json.isObj).map Normalize.property :=
    sortedBy_short (by rw [List.length_map]; exact (List.length_filter_le _ _).trans few)
  have relationships : (ordersWith order line).records "relationships" = [] := rfl
  have metrics : (ordersWith order line).records "metrics" = [] := rfl
  have dimensions : (ordersWith order line).records "dimensions" = [] := rfl
  rw [normalize, objects, relationships, metrics, dimensions, ← properties few, ← properties fewToo]
  simp only [List.map_nil, sortedBy_short, List.length_nil, Nat.zero_le]
  rfl

/-- Both documents are valid. The first order line number is a property of orders and the other one of order lines;
both are removed under one full name, and only the first is found. -/
theorem dotted_removals_confused :
    let old := ordersWith [propertyOf "line.no" "string"] [propertyOf "no" "integer"]
    let new := ordersWith [] []
    (Document.validate old).isValid = true ∧ (Document.validate new).isValid = true ∧
      ((diff (normalize old) (normalize new)).changes.map fun c => (c.kind, c.element)) =
        [(.propertyRemoved, "Order.line.no"), (.propertyRemoved, "Order.line.no")] ∧
      ((diff (normalize old) (normalize new)).changes.map Change.old) =
        [some (.str "string"), some (.str "integer")] ∧
      ((diff (normalize old) (normalize new)).find? .propertyRemoved "Order.line.no").map Change.old =
        some (some (.str "string")) ∧
      ¬ (diff (normalize old) (normalize new)).Identified := by
  intro old new
  have described : normalize old =
      ordersOf [⟨"line.no", .string, "", true, false⟩] [⟨"no", .integer, "", true, false⟩] :=
    normalize_ordersWith (by decide) (by decide)
  have emptied : normalize new = ordersOf [] [] := normalize_ordersWith (by decide) (by decide)
  rw [described, emptied]
  refine ⟨by decide, by decide, by decide, rfl, rfl, fun identified => ?_⟩
  have distinct : ((diff (ordersOf [⟨"line.no", .string, "", true, false⟩] [⟨"no", .integer, "", true, false⟩])
      (ordersOf [] [])).changes.map fun c => (c.kind, c.element)).Nodup :=
    List.pairwise_map.mpr (identified.apart.imp fun apart same => apart (Prod.mk.inj same))
  exact absurd distinct (by decide)

/-- Where no member has a dot in its name, the same name in both objects is told apart. -/
theorem plain_removals_identified :
    let old := normalize (ordersWith [propertyOf "no" "string"] [propertyOf "no" "integer"])
    let new := normalize (ordersWith [] [])
    Undotted old new ∧ (diff old new).Identified := by
  intro old new
  have described : old = ordersOf [⟨"no", .string, "", true, false⟩] [⟨"no", .integer, "", true, false⟩] :=
    normalize_ordersWith (by decide) (by decide)
  have emptied : new = ordersOf [] [] := normalize_ordersWith (by decide) (by decide)
  have undotted : Undotted old new := by
    rw [described, emptied]
    exact .inr (by decide)
  exact ⟨undotted, (changes_identified_iff _ _).2 undotted⟩

end SemanticLayer
