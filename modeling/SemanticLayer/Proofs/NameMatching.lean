import SemanticLayer.Change.Diff
import SemanticLayer.Proofs.TextOrder

/-! How the things of two lists are matched by name. The names are walked in their order, but which
changes come out depends only on what each name stands for in either list. -/
namespace SemanticLayer.Diff

section ByName
variable {name : α → String} {old new : List α} {added removed : α → List Change}
  {both : α → α → List Change} {c : Change} {P : Change → Prop}

private theorem walked {n : String} {x : α}
    (found : old.find? (name · = n) = some x ∨ new.find? (name · = n) = some x) :
    n ∈ textSet (old.map name ++ new.map name) := by
  rw [mem_textSet, List.mem_append]
  rcases found with found | found
  · exact .inl (find?_name_isSome.mp (by rw [found]; rfl))
  · exact .inr (find?_name_isSome.mp (by rw [found]; rfl))

/-- A change comes from a name that only one of the lists knows, or from one that both know. -/
theorem mem_byName : c ∈ byName name old new added removed both ↔
    (∃ n y, old.find? (name · = n) = none ∧ new.find? (name · = n) = some y ∧ c ∈ added y) ∨
    (∃ n x, old.find? (name · = n) = some x ∧ new.find? (name · = n) = none ∧ c ∈ removed x) ∨
    ∃ n x y, old.find? (name · = n) = some x ∧ new.find? (name · = n) = some y ∧ c ∈ both x y := by
  unfold byName
  rw [List.mem_flatMap]
  constructor
  · rintro ⟨n, _, member⟩
    split at member
    · rename_i y before after
      exact .inl ⟨n, y, before, after, member⟩
    · rename_i x before after
      exact .inr (.inl ⟨n, x, before, after, member⟩)
    · rename_i x y before after
      exact .inr (.inr ⟨n, x, y, before, after, member⟩)
    · cases member
  · rintro (⟨n, y, before, after, member⟩ | ⟨n, x, before, after, member⟩ |
      ⟨n, x, y, before, after, member⟩)
    · exact ⟨n, walked (.inr after), by simpa only [before, after] using member⟩
    · exact ⟨n, walked (.inl before), by simpa only [before, after] using member⟩
    · exact ⟨n, walked (.inl before), by simpa only [before, after] using member⟩

theorem forall_byName : (∀ c ∈ byName name old new added removed both, P c) ↔
    (∀ n y, old.find? (name · = n) = none → new.find? (name · = n) = some y → ∀ c ∈ added y, P c) ∧
    (∀ n x, old.find? (name · = n) = some x → new.find? (name · = n) = none → ∀ c ∈ removed x, P c) ∧
    ∀ n x y, old.find? (name · = n) = some x → new.find? (name · = n) = some y →
      ∀ c ∈ both x y, P c := by
  constructor
  · intro all
    refine ⟨?_, ?_, ?_⟩
    · intro n y before after c member
      exact all c (mem_byName.mpr (.inl ⟨n, y, before, after, member⟩))
    · intro n x before after c member
      exact all c (mem_byName.mpr (.inr (.inl ⟨n, x, before, after, member⟩)))
    · intro n x y before after c member
      exact all c (mem_byName.mpr (.inr (.inr ⟨n, x, y, before, after, member⟩)))
  · rintro ⟨onlyNew, onlyOld, shared⟩ c member
    rcases mem_byName.mp member with ⟨n, y, before, after, member⟩ | ⟨n, x, before, after, member⟩ |
      ⟨n, x, y, before, after, member⟩
    · exact onlyNew n y before after c member
    · exact onlyOld n x before after c member
    · exact shared n x y before after c member

end ByName

theorem sameMembers_iff [BEq α] [LawfulBEq α] {xs ys : List α} :
    sameMembers xs ys = true ↔ ∀ a, a ∈ xs ↔ a ∈ ys := by
  simp only [sameMembers, Bool.and_eq_true, List.all_eq_true, List.contains_iff_mem]
  constructor
  · rintro ⟨forth, back⟩ a
    exact ⟨forth a, back a⟩
  · intro same
    exact ⟨fun a => (same a).mp, fun a => (same a).mpr⟩

/-- A report lists each change once, by its class. -/
theorem report_changes (changes : List Change) :
    (ChangeReport.ofChanges changes).changes.Perm changes :=
  List.filter_append_perm (fun c : Change => c.breaking) changes

end SemanticLayer.Diff
