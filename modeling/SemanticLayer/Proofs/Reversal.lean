import SemanticLayer.Proofs.NameMatching

/-! The changes from a new version back to an old one. Every change has a counterpart that says the
same from the other side, and the changes between two versions in one direction are the
counterparts of those in the other. Main statement (`diff_reversed`). -/
namespace SemanticLayer

/-! ### Counterparts -/

/-- What a change is called when the two versions change places. -/
def ChangeKind.reversed : ChangeKind → ChangeKind
  | .objectAdded => .objectRemoved
  | .objectRemoved => .objectAdded
  | .identifierAdded => .identifierRemoved
  | .identifierRemoved => .identifierAdded
  | .propertyAdded => .propertyRemoved
  | .propertyRemoved => .propertyAdded
  | .relationshipAdded => .relationshipRemoved
  | .relationshipRemoved => .relationshipAdded
  | .relationshipCardinalityTightened => .relationshipCardinalityRelaxed
  | .relationshipCardinalityRelaxed => .relationshipCardinalityTightened
  | .metricAdded => .metricRemoved
  | .metricRemoved => .metricAdded
  | .dimensionAdded => .dimensionRemoved
  | .dimensionRemoved => .dimensionAdded
  | kind => kind

namespace Change

/-- Whether a change is that a dimension exposes another property. It counts as a removal, whichever
version comes first. -/
def changesSource (c : Change) : Bool :=
  (c.kind = .dimensionAdded || c.kind = .dimensionRemoved) &&
    (c.details.get? "source_changed").isSome

/-- The kind of the counterpart of a change. -/
def reversedKind (c : Change) : ChangeKind :=
  if c.changesSource then c.kind else c.kind.reversed

/-- Lists of what was added and what was removed that have changed places. -/
def exchanged : Json → Json
  | .obj [("added", gained), ("removed", lost)] => .obj [("added", lost), ("removed", gained)]
  | details => details

/-- The change that says the same of the versions in the other order. A change that gets another name
is breaking exactly if it was not before. -/
def reversed (c : Change) : Change where
  kind := c.reversedKind
  breaking := if c.reversedKind = c.kind then c.breaking else !c.breaking
  element := c.element
  old := c.new
  new := c.old
  details := if c.kind = .identifierReplaced then exchanged c.details else c.details

theorem exchanged_exchanged (details : Json) : exchanged (exchanged details) = details := by
  fun_cases exchanged details with
  | case1 gained lost => rfl
  | case2 =>
    rename_i other
    rw [exchanged]
    exact other

theorem reversed_kind_twice (kind : ChangeKind) : kind.reversed.reversed = kind := by
  cases kind <;> rfl

theorem reversedKind_replaced (c : Change) :
    c.reversedKind = .identifierReplaced ↔ c.kind = .identifierReplaced := by
  unfold reversedKind
  split
  · rfl
  · cases c.kind <;> simp [ChangeKind.reversed]

theorem changesSource_reversed (c : Change) : c.reversed.changesSource = c.changesSource := by
  obtain ⟨kind, breaking, element, old, new, details⟩ := c
  cases sourced : (details.get? "source_changed").isSome <;> cases kind <;>
    simp [changesSource, reversed, reversedKind, ChangeKind.reversed, sourced]

theorem reversedKind_reversed (c : Change) : c.reversed.reversedKind = c.kind := by
  unfold reversedKind
  rw [changesSource_reversed]
  simp only [reversed, reversedKind]
  split
  · rfl
  · exact reversed_kind_twice c.kind

/-- Changing places twice changes nothing. -/
theorem reversed_reversed (c : Change) : c.reversed.reversed = c := by
  have kind := reversedKind_reversed c
  have breaking : (if c.kind = c.reversedKind then c.reversed.breaking else !c.reversed.breaking) =
      c.breaking := by
    by_cases same : c.reversedKind = c.kind
    · simp [reversed, same]
    · simp [reversed, same, Ne.symm same]
  have details : (if c.reversedKind = .identifierReplaced then exchanged c.reversed.details
      else c.reversed.details) = c.details := by
    simp only [reversed, reversedKind_replaced]
    split
    · exact exchanged_exchanged c.details
    · rfl
  calc c.reversed.reversed
      = ⟨c.reversed.reversedKind, if c.reversed.reversedKind = c.reversedKind then c.reversed.breaking
          else !c.reversed.breaking, c.element, c.old, c.new,
          if c.reversedKind = .identifierReplaced then exchanged c.reversed.details
          else c.reversed.details⟩ := rfl
    _ = c := by rw [kind, breaking, details]

end Change
namespace Diff

/-- The second list of changes consists of the counterparts of the first one, in any order. -/
def Mirrored (forth back : List Change) : Prop := back.Perm (forth.map Change.reversed)

section Mirrored
variable {forth back others rest : List Change} {c d : Change}

theorem mirrored_nil : Mirrored [] [] := .nil

theorem mirrored_singleton (counterpart : d = c.reversed) : Mirrored [c] [d] := by
  rw [counterpart]
  exact .refl _

theorem mirrored_append (left : Mirrored forth back) (right : Mirrored others rest) :
    Mirrored (forth ++ others) (back ++ rest) := by
  unfold Mirrored
  rw [List.map_append]
  exact left.append right

theorem mirrored_if {p q : Prop} [Decidable p] [Decidable q] (same : q ↔ p)
    (counterpart : d = c.reversed) : Mirrored (if p then [] else [c]) (if q then [] else [d]) := by
  by_cases holds : p
  · rw [if_pos holds, if_pos (same.mpr holds)]
    exact mirrored_nil
  · rw [if_neg holds, if_neg (mt same.mp holds)]
    exact mirrored_singleton counterpart

theorem mirrored_text_change {kind : ChangeKind} {breaking : Bool} {element was now : String}
    (lasting : ∀ was now, change kind breaking element now was =
      (change kind breaking element was now).reversed) :
    Mirrored (textChange kind breaking element was now)
      (textChange kind breaking element now was) :=
  mirrored_if eq_comm (lasting _ _)

/-- Where what is said of each name has its counterpart, so has all that is said. -/
theorem mirrored_byName {name : α → String} {old new : List α}
    {added removed addedBack removedBack : α → List Change} {both bothBack : α → α → List Change}
    (lost : ∀ x, Mirrored (removed x) (addedBack x)) (gained : ∀ y, Mirrored (added y) (removedBack y))
    (shared : ∀ x y, name x = name y → Mirrored (both x y) (bothBack y x)) :
    Mirrored (byName name old new added removed both)
      (byName name new old addedBack removedBack bothBack) := by
  have names : textSet (new.map name ++ old.map name) = textSet (old.map name ++ new.map name) :=
    textSet_congr fun t => by simp only [List.mem_append, or_comm]
  unfold Mirrored byName
  rw [names, List.map_flatMap]
  refine List.Perm.flatMap_left _ fun n _ => ?_
  cases before : old.find? (name · = n) with
  | none =>
    cases after : new.find? (name · = n) with
    | none => exact mirrored_nil
    | some y => exact gained y
  | some x =>
    cases after : new.find? (name · = n) with
    | none => exact lost x
    | some y => exact shared x y ((find?_name before).2.trans (find?_name after).2.symm)

end Mirrored

/-! ### Each kind of thing -/

theorem overlap_comm (xs ys : List String) : ys.any xs.contains = xs.any ys.contains := by
  rw [Bool.eq_iff_iff, List.any_eq_true, List.any_eq_true]
  simp only [List.contains_iff_mem]
  exact exists_congr fun id => and_comm

/-- Of the identifiers those that were added are the ones removed on the way back. -/
theorem mirrored_identifiers {x y : Object} (named : x.name = y.name) :
    Mirrored (identifiers x y) (identifiers y x) := by
  unfold identifiers
  dsimp only
  generalize textSet x.identifiers = oldIds
  generalize textSet y.identifiers = newIds
  rw [named, overlap_comm oldIds newIds, Bool.and_comm (List.isEmpty _), Bool.and_comm (!newIds.isEmpty)]
  split
  · exact mirrored_nil
  split
  · exact mirrored_singleton rfl
  · refine List.perm_append_comm.trans ?_
    rw [List.map_append, List.map_map, List.map_map]
    exact .refl _

theorem mirrored_properties {x y : Object} (named : x.name = y.name) :
    Mirrored (properties x y) (properties y x) := by
  unfold properties
  rw [named]
  refine mirrored_byName (fun p => mirrored_singleton rfl) (fun q => mirrored_singleton rfl)
    fun p q same => ?_
  simp only [same]
  exact mirrored_append (mirrored_if eq_comm rfl) (mirrored_text_change fun _ _ => rfl)

theorem mirrored_objects (a b : Ontology) : Mirrored (objects a b) (objects b a) := by
  unfold objects
  refine mirrored_byName (fun x => mirrored_singleton rfl) (fun y => mirrored_singleton rfl)
    fun x y same => ?_
  rw [same]
  exact mirrored_append (mirrored_append (mirrored_text_change fun _ _ => rfl)
    (mirrored_identifiers same)) (mirrored_properties same)

theorem same_members_comm [BEq α] (xs ys : List α) : sameMembers xs ys = sameMembers ys xs :=
  Bool.and_comm _ _

/-- A stricter cardinality is a laxer one on the way back. -/
theorem mirrored_cardinality {r s : Relationship} (named : r.name = s.name) :
    Mirrored (cardinality r s) (cardinality s r) := by
  unfold cardinality
  dsimp only
  rw [named]
  rcases Nat.lt_trichotomy r.cardinality.rank s.cardinality.rank with stricter | same | laxer
  · rw [if_pos stricter, if_neg (Nat.lt_asymm stricter), if_pos stricter]
    exact mirrored_singleton rfl
  · simp only [same, Nat.lt_irrefl, if_false]
    exact mirrored_nil
  · rw [if_pos laxer, if_neg (Nat.lt_asymm laxer), if_pos laxer]
    exact mirrored_singleton rfl

theorem mirrored_relationships (a b : Ontology) :
    Mirrored (relationships a b) (relationships b a) := by
  unfold relationships
  refine mirrored_byName (fun r => mirrored_singleton rfl) (fun s => mirrored_singleton rfl)
    fun r s same => ?_
  rw [same]
  have ends : s.source = r.source ∧ s.target = r.target ↔ r.source = s.source ∧ r.target = s.target :=
    and_congr eq_comm eq_comm
  have keys : sameMembers s.joinKeys r.joinKeys = true ↔ sameMembers r.joinKeys s.joinKeys = true := by
    rw [same_members_comm]
  refine mirrored_append (mirrored_append (mirrored_append (mirrored_if ends rfl)
    (mirrored_if keys rfl)) (mirrored_cardinality same)) (mirrored_text_change fun _ _ => rfl)

theorem mirrored_metrics (a b : Ontology) : Mirrored (metrics a b) (metrics b a) := by
  unfold metrics
  refine mirrored_byName (fun m => mirrored_singleton rfl) (fun n => mirrored_singleton rfl)
    fun m n same => ?_
  rw [same]
  have grains : sameMembers n.grain m.grain = true ↔ sameMembers m.grain n.grain = true := by
    rw [same_members_comm]
  exact mirrored_append (mirrored_append (mirrored_text_change fun _ _ => rfl)
    (mirrored_if grains rfl)) (mirrored_text_change fun _ _ => rfl)

/-- That a dimension exposes another property is said in the same words from either side. -/
theorem mirrored_dimensions (a b : Ontology) : Mirrored (dimensions a b) (dimensions b a) := by
  unfold dimensions
  refine mirrored_byName (fun d => mirrored_singleton rfl) (fun e => mirrored_singleton rfl)
    fun d e same => ?_
  rw [same]
  exact mirrored_append (mirrored_if eq_comm rfl) (mirrored_text_change fun _ _ => rfl)

theorem report_total (changes : List Change) :
    (ChangeReport.ofChanges changes).counts.total = changes.length := by
  have lengths := (report_changes changes).length_eq
  rwa [ChangeReport.changes, List.length_append] at lengths

end Diff

/-- The changes from the new version to the old one are the counterparts of those from the old to the
new one, each as often, and taking counterparts twice changes nothing. -/
theorem diff_reversed (a b : Ontology) :
    (diff b a).changes.Perm ((diff a b).changes.map Change.reversed) ∧
      (diff b a).counts.total = (diff a b).counts.total ∧
      ∀ c : Change, c.reversed.reversed = c := by
  have mirrored := Diff.mirrored_append (Diff.mirrored_append (Diff.mirrored_append
    (Diff.mirrored_objects a b) (Diff.mirrored_relationships a b)) (Diff.mirrored_metrics a b))
    (Diff.mirrored_dimensions a b)
  refine ⟨?_, ?_, Change.reversed_reversed⟩
  · exact (Diff.report_changes _).trans (mirrored.trans ((Diff.report_changes _).symm.map _))
  · rw [diff, Diff.report_total, mirrored.length_eq, List.length_map, diff, Diff.report_total]

end SemanticLayer
