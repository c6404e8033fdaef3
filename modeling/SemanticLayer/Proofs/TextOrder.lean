import Mathlib
import SemanticLayer.Keyed

/-! Sorted lists have one form: a set of texts is determined by its members, and a list sorted by
two texts that tell its members apart is determined by its members and how often each occurs.
Keyed lists answer look-ups as finite maps do. -/
namespace SemanticLayer

theorem textLe_iff {a b : String} : textLe a b = true ↔ a ≤ b := by
  simp only [textLe, Bool.not_eq_true', decide_eq_false_iff_not, String.not_lt]

theorem textLe_trans {a b c : String} (ab : textLe a b = true) (bc : textLe b c = true) : textLe a c = true :=
  textLe_iff.mpr (String.le_trans (textLe_iff.mp ab) (textLe_iff.mp bc))

theorem textLe_total (a b : String) : (textLe a b || textLe b a) = true := by
  rw [Bool.or_eq_true, textLe_iff, textLe_iff]
  exact String.le_total a b

/-! ### Sets of texts -/

theorem mem_insertText {t text : String} {texts : List String} :
    t ∈ insertText text texts ↔ t = text ∨ t ∈ texts := by
  induction texts with
  | nil => simp [insertText]
  | cons head rest ih =>
    simp only [insertText]
    split
    · simp
    · split
      · simp only [List.mem_cons, ih]
        exact or_left_comm
      · rename_i notBefore notAfter
        have same : text = head :=
          String.le_antisymm (String.not_lt.mp notAfter) (String.not_lt.mp notBefore)
        simp [same]

@[simp] theorem mem_textSet {t : String} {texts : List String} : t ∈ textSet texts ↔ t ∈ texts := by
  induction texts with
  | nil => simp [textSet]
  | cons head rest ih =>
    simp only [textSet, List.foldr_cons] at ih ⊢
    rw [mem_insertText, ih, List.mem_cons]

private theorem insertText_increasing {text : String} {texts : List String}
    (sorted : texts.Pairwise (· < ·)) : (insertText text texts).Pairwise (· < ·) := by
  induction texts with
  | nil => exact List.pairwise_singleton _ _
  | cons head rest ih =>
    obtain ⟨headFirst, restSorted⟩ := List.pairwise_cons.mp sorted
    simp only [insertText]
    split
    · rename_i before
      refine List.pairwise_cons.mpr ⟨fun other member => ?_, sorted⟩
      rcases List.mem_cons.mp member with rfl | later
      · exact before
      · exact String.lt_trans before (headFirst other later)
    · split
      · rename_i after
        refine List.pairwise_cons.mpr ⟨fun other member => ?_, ih restSorted⟩
        rcases mem_insertText.mp member with rfl | later
        · exact after
        · exact headFirst other later
      · exact sorted

theorem textSet_increasing (texts : List String) : (textSet texts).Pairwise (· < ·) := by
  induction texts with
  | nil => exact List.Pairwise.nil
  | cons head rest ih => exact insertText_increasing ih

/-- Two strictly increasing lists with the same members are the same list. -/
theorem eq_of_increasing {xs ys : List String} (left : xs.Pairwise (· < ·))
    (right : ys.Pairwise (· < ·)) (same : ∀ t, t ∈ xs ↔ t ∈ ys) : xs = ys := by
  have perm : xs.Perm ys := (List.perm_ext_iff_of_nodup
    (left.imp String.ne_of_lt) (right.imp String.ne_of_lt)).mpr same
  exact perm.eq_of_pairwise
    (fun a b _ _ before after => absurd after (String.lt_asymm before)) left right

/-- Only the members of a list matter for the set of its texts. -/
theorem textSet_congr {xs ys : List String} (same : ∀ t, t ∈ xs ↔ t ∈ ys) :
    textSet xs = textSet ys :=
  eq_of_increasing (textSet_increasing xs) (textSet_increasing ys) (by simpa using same)

/-! ### Sorting by two texts -/

section Sorting
variable {first second : α → String} {xs ys : List α}

/-- The order by which `sortedBy` arranges its members. -/
def PairLe (first second : α → String) (a b : α) : Prop :=
  first a < first b ∨ first a = first b ∧ second a ≤ second b

private theorem pair_le_iff {a b : α} :
    (decide (first a < first b) || (first a == first b && textLe (second a) (second b))) = true ↔
      PairLe first second a b := by
  simp only [PairLe, textLe_iff, Bool.or_eq_true, Bool.and_eq_true, decide_eq_true_eq, beq_iff_eq]

private theorem pair_le_trans {a b c : α} (ab : PairLe first second a b)
    (bc : PairLe first second b c) : PairLe first second a c := by
  rcases ab with ab | ⟨ab, abKey⟩ <;> rcases bc with bc | ⟨bc, bcKey⟩
  · exact .inl (String.lt_trans ab bc)
  · exact .inl (bc ▸ ab)
  · exact .inl (ab ▸ bc)
  · exact .inr ⟨ab.trans bc, String.le_trans abKey bcKey⟩

private theorem pair_le_total (a b : α) : PairLe first second a b ∨ PairLe first second b a := by
  by_cases before : first a < first b
  · exact .inl (.inl before)
  by_cases after : first b < first a
  · exact .inr (.inl after)
  have same := String.le_antisymm (String.not_lt.mp after) (String.not_lt.mp before)
  rcases String.le_total (second a) (second b) with le | le
  · exact .inl (.inr ⟨same, le⟩)
  · exact .inr (.inr ⟨same.symm, le⟩)

private theorem pair_le_antisymm {a b : α} (ab : PairLe first second a b)
    (ba : PairLe first second b a) : first a = first b ∧ second a = second b := by
  rcases ab with ab | ⟨same, abKey⟩ <;> rcases ba with ba | ⟨_, baKey⟩
  · exact absurd ba (String.lt_asymm ab)
  · simp_all
  · exact absurd ba (same ▸ String.lt_irrefl _)
  · exact ⟨same, String.le_antisymm abKey baKey⟩

theorem sortedBy_perm (first second : α → String) (xs : List α) :
    (sortedBy first second xs).Perm xs :=
  List.mergeSort_perm _ _

theorem mem_sortedBy {x : α} : x ∈ sortedBy first second xs ↔ x ∈ xs :=
  (sortedBy_perm first second xs).mem_iff

theorem sortedBy_pairwise (first second : α → String) (xs : List α) :
    (sortedBy first second xs).Pairwise (PairLe first second) := by
  have sorted := @List.pairwise_mergeSort α
    (fun a b => decide (first a < first b) ||
      (first a == first b && textLe (second a) (second b)))
    (fun a b c ab bc => pair_le_iff.mpr (pair_le_trans (pair_le_iff.mp ab) (pair_le_iff.mp bc)))
    (fun a b => by
      rw [Bool.or_eq_true, pair_le_iff, pair_le_iff]
      exact pair_le_total a b) xs
  exact sorted.imp pair_le_iff.mp

/-- Where the two texts tell members apart, sorting forgets the order of the list. -/
theorem sortedBy_eq_of_perm
    (apart : ∀ a b, first a = first b → second a = second b → a = b) (perm : xs.Perm ys) :
    sortedBy first second xs = sortedBy first second ys := by
  have sortedPerm : (sortedBy first second xs).Perm (sortedBy first second ys) :=
    (sortedBy_perm first second xs).trans (perm.trans (sortedBy_perm first second ys).symm)
  refine sortedPerm.eq_of_pairwise (fun a b _ _ ab ba => ?_)
    (sortedBy_pairwise first second xs) (sortedBy_pairwise first second ys)
  obtain ⟨sameFirst, sameSecond⟩ := pair_le_antisymm ab ba
  exact apart a b sameFirst sameSecond

/-- Members with distinct names stand in strictly increasing order of their names. -/
theorem sortedBy_increasing (distinct : (xs.map first).Nodup) :
    ((sortedBy first second xs).map first).Pairwise (· < ·) := by
  have apart : ((sortedBy first second xs).map first).Nodup :=
    ((sortedBy_perm first second xs).map first).nodup_iff.mpr distinct
  rw [List.pairwise_map]
  refine (sortedBy_pairwise first second xs).imp₂ (fun a b le ne => ?_) (List.pairwise_map.mp apart)
  exact le.resolve_right fun same => ne same.1

end Sorting

/-! ### First bearers of names -/

section Bearers
variable {name : α → String} {xs : List α} {x : α} {n : String}

theorem find?_name (found : xs.find? (name · = n) = some x) : x ∈ xs ∧ name x = n := by
  have bears := List.find?_some found
  exact ⟨List.mem_of_find?_eq_some found, of_decide_eq_true bears⟩

theorem find?_name_isSome : (xs.find? (name · = n)).isSome = true ↔ n ∈ xs.map name := by
  simp

/-- Where names are distinct, every member is the first bearer of its name. -/
theorem find?_name_of_mem (distinct : (xs.map name).Nodup) (member : x ∈ xs) :
    xs.find? (name · = name x) = some x := by
  have named : name x ∈ xs.map name := List.mem_map_of_mem member
  obtain ⟨y, found⟩ := Option.isSome_iff_exists.mp (find?_name_isSome.mpr named)
  obtain ⟨other, same⟩ := find?_name found
  rw [found, List.inj_on_of_nodup_map distinct other member same]

/-- Where names are distinct, every member is the only bearer of its name. -/
theorem filter_name_of_mem (distinct : (xs.map name).Nodup) (member : x ∈ xs) :
    xs.filter (name · = name x) = [x] := by
  have kept : (xs.filter (name · = name x)).Nodup := distinct.of_map.filter _
  refine List.perm_singleton.mp ((List.perm_ext_iff_of_nodup kept (List.nodup_singleton x)).mpr fun y => ?_)
  rw [List.mem_filter, List.mem_singleton, decide_eq_true_iff]
  constructor
  · rintro ⟨other, same⟩
    exact List.inj_on_of_nodup_map distinct other member same
  · rintro rfl
    exact ⟨member, rfl⟩

theorem only_bearer {y : α} (only : xs.filter (name · = n) = [x]) : y ∈ xs ∧ name y = n ↔ y = x := by
  have listed : y ∈ xs.filter (name · = n) ↔ y ∈ [x] := by rw [only]
  rwa [List.mem_filter, decide_eq_true_iff, List.mem_singleton] at listed

end Bearers

/-! ### Keyed lists -/

namespace Keyed
variable {key other : String} {value : α} {entries : List (String × α)}

theorem get?_insert : get? other (insert key value entries) =
    if key = other then some value else get? other entries := by
  induction entries with
  | nil => simp [insert, get?]
  | cons entry rest ih =>
    obtain ⟨k, v⟩ := entry
    simp only [insert]
    split
    · simp [get?]
    · split
      · rename_i after
        by_cases found : k = other
        · have ne : key ≠ other := fun same => String.ne_of_lt after (found.trans same.symm)
          simp [get?, found, ne]
        · simp [get?, found, ih]
      · rename_i notBefore notAfter
        have same : key = k :=
          String.le_antisymm (String.not_lt.mp notAfter) (String.not_lt.mp notBefore)
        subst same
        by_cases found : key = other <;> simp [get?, found]

theorem get?_insertNew : get? other (insertNew key value entries) =
    (get? other entries).or (if key = other then some value else none) := by
  unfold insertNew
  cases held : get? key entries with
  | none =>
    rw [get?_insert]
    by_cases same : key = other
    · subst same
      simp [held]
    · simp [same]
  | some _ =>
    by_cases same : key = other
    · subst same
      simp [held]
    · simp [same]

theorem mem_of_get? (found : get? key entries = some value) : (key, value) ∈ entries := by
  induction entries with
  | nil => simp [get?] at found
  | cons entry rest ih =>
    obtain ⟨k, v⟩ := entry
    by_cases same : k = key
    · simp only [get?, same, ↓reduceIte, Option.some.injEq] at found
      simp [same, found]
    · simp only [get?, same, ↓reduceIte] at found
      exact List.mem_cons_of_mem _ (ih found)

theorem get?_isSome : (get? key entries).isSome = true ↔ key ∈ entries.map Prod.fst := by
  induction entries with
  | nil => simp [get?]
  | cons entry rest ih =>
    obtain ⟨k, v⟩ := entry
    by_cases same : k = key
    · simp [get?, same]
    · simp [get?, same, ih, Ne.symm same]

/-- Where no key stands twice, every entry is found under its key. -/
theorem get?_of_mem (distinct : (entries.map Prod.fst).Nodup) (member : (key, value) ∈ entries) :
    get? key entries = some value := by
  induction entries with
  | nil => simp at member
  | cons entry rest ih =>
    obtain ⟨k, v⟩ := entry
    obtain ⟨fresh, restDistinct⟩ := List.nodup_cons.mp distinct
    rcases List.mem_cons.mp member with head | later
    · obtain ⟨rfl, rfl⟩ := Prod.mk.inj head
      simp [get?]
    · have other : k ≠ key := fun same => fresh (List.mem_map.mpr ⟨_, later, same.symm⟩)
      simp [get?, other, ih restDistinct later]

theorem mem_insert {entry : String × α} (member : entry ∈ insert key value entries) :
    entry = (key, value) ∨ entry ∈ entries := by
  induction entries with
  | nil => simpa [insert] using member
  | cons head rest ih =>
    obtain ⟨k, v⟩ := head
    simp only [insert] at member
    split at member
    · exact List.mem_cons.mp member
    · split at member
      · rcases List.mem_cons.mp member with rfl | later
        · exact .inr List.mem_cons_self
        · exact (ih later).imp_right (List.mem_cons_of_mem _)
      · exact (List.mem_cons.mp member).imp_right (List.mem_cons_of_mem _)

theorem mem_insertNew {entry : String × α} (member : entry ∈ insertNew key value entries) :
    entry = (key, value) ∨ entry ∈ entries := by
  unfold insertNew at member
  split at member
  · exact .inr member
  · exact mem_insert member

/-- Entries that are added one after the other, each step bringing in no other one. -/
private theorem mem_foldl {entry : String × α} {pairs start : List (String × α)}
    {step : List (String × α) → String × α → List (String × α)}
    (brings : ∀ entries pair, entry ∈ step entries pair → entry = pair ∨ entry ∈ entries)
    (member : entry ∈ pairs.foldl step start) : entry ∈ start ∨ entry ∈ pairs := by
  induction pairs generalizing start with
  | nil => exact .inl member
  | cons pair rest ih =>
    rcases ih member with stepped | later
    · rcases brings start pair stepped with rfl | old
      · exact .inr List.mem_cons_self
      · exact .inl old
    · exact .inr (List.mem_cons_of_mem _ later)

/-- Every entry of a keyed list comes from the pairs that it was built of. -/
theorem mem_ofList {entry : String × α} {pairs : List (String × α)}
    (member : entry ∈ ofList pairs) : entry ∈ pairs :=
  (mem_foldl (fun _ _ => mem_insert) member).resolve_left List.not_mem_nil

/-- Adding pairs one after the other keeps what is there and lets the first pair of a key win. -/
theorem get?_foldl_insertNew {pairs start : List (String × α)} :
    get? key (pairs.foldl (fun entries pair => insertNew pair.1 pair.2 entries) start) =
      (get? key start).or (get? key pairs) := by
  induction pairs generalizing start with
  | nil => simp [get?]
  | cons pair rest ih =>
    obtain ⟨k, v⟩ := pair
    rw [List.foldl_cons, ih, get?_insertNew, Option.or_assoc]
    by_cases same : k = key <;> simp [get?, same]

theorem mem_foldl_insertNew {entry : String × α} {pairs start : List (String × α)}
    (member : entry ∈ pairs.foldl (fun entries pair => insertNew pair.1 pair.2 entries) start) :
    entry ∈ start ∨ entry ∈ pairs :=
  mem_foldl (fun _ _ => mem_insertNew) member

end Keyed
end SemanticLayer
