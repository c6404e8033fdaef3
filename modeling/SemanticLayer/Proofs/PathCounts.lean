import SemanticLayer.Proofs.SimplePaths

/-! How the number of paths depends on their ends and on the depth of the search. A path turned around is a
path back (`SimplePath.turned`), so it does not matter from which of two objects the search starts; and a path
has fewer relationships than there are objects (`SimplePath.length_lt`), so a search that goes deeper finds no
more. Main statement: `path_counts_settle`. -/
namespace SemanticLayer

namespace Ontology

/-- A way taken back, from the object where it started. -/
def turned : String → List (Nat × String) → List (Nat × String)
  | _, [] => []
  | a, (place, b) :: rest => turned b rest ++ [(place, a)]

section Turning
variable {o : Ontology} {place : Nat} {a b c : String} {steps more : List (Nat × String)} {depth deeper : Nat}

theorem turned_length : (turned a steps).length = steps.length := by
  induction steps generalizing a with
  | nil => rfl
  | cons step rest ih => simp [turned, ih]

theorem Way.append (way : o.Way a steps b) (onward : o.Way b more c) : o.Way a (steps ++ more) c := by
  induction way with
  | stay => exact onward
  | go crosses _ ih => exact .go crosses (ih onward)

theorem Way.turned (way : o.Way a steps b) : o.Way b (turned a steps) a := by
  induction way with
  | stay a => exact .stay a
  | go crosses _ ih => exact ih.append (.go crosses.symm (.stay _))

/-- Turned around, a way comes to the same objects in the other order. -/
theorem Way.turned_stops (way : o.Way a steps b) :
    b :: (Ontology.turned a steps).map Prod.snd = (a :: steps.map Prod.snd).reverse := by
  induction way with
  | stay => rfl
  | @go place a b c rest _ _ ih =>
    calc c :: (Ontology.turned a ((place, b) :: rest)).map Prod.snd
      _ = (c :: (Ontology.turned b rest).map Prod.snd) ++ [a] := by simp [Ontology.turned]
      _ = (b :: rest.map Prod.snd).reverse ++ [a] := by rw [ih]
      _ = (a :: ((place, b) :: rest).map Prod.snd).reverse := by simp

theorem Way.turned_append (way : o.Way a steps b) :
    Ontology.turned a (steps ++ more) = Ontology.turned b more ++ Ontology.turned a steps := by
  induction way with
  | stay => simp [Ontology.turned]
  | go _ _ ih => simp [Ontology.turned, ih]

theorem Way.turned_turned (way : o.Way a steps b) :
    Ontology.turned b (Ontology.turned a steps) = steps := by
  induction way with
  | stay => rfl
  | go _ onward ih =>
    rw [Ontology.turned, onward.turned.turned_append, ih]
    rfl

theorem SimplePath.turned (path : o.SimplePath a steps b) : o.SimplePath b (turned a steps) a where
  way := path.way.turned
  once := by
    rw [path.way.turned_stops]
    exact List.nodup_reverse.mpr path.once

/-- Turning paths around makes different paths of different ones. -/
theorem encard_simplePaths_le (o : Ontology) (a b : String) (depth : Nat) :
    (o.simplePaths a b depth).encard ≤ (o.simplePaths b a depth).encard := by
  refine Set.encard_le_encard_of_injOn (f := Ontology.turned a) ?_ ?_
  · rintro steps ⟨path, short⟩
    exact ⟨path.turned, by rwa [turned_length]⟩
  · rintro steps ⟨path, _⟩ others ⟨other, _⟩ same
    rw [← path.way.turned_turned, same, other.way.turned_turned]

theorem simplePaths_mono (le : depth ≤ deeper) : o.simplePaths a b depth ⊆ o.simplePaths a b deeper := by
  rintro steps ⟨path, short⟩
  exact ⟨path, short.trans le⟩

/-- A path comes to each object once at most. -/
theorem SimplePath.length_lt (path : o.SimplePath a steps b) (start : a ∈ o.objectNames) :
    steps.length < (textSet o.objectNames).length := by
  have inside : a :: steps.map Prod.snd ⊆ textSet o.objectNames := by
    refine List.cons_subset.mpr ⟨mem_textSet.mpr start, ?_⟩
    intro x member
    exact mem_textSet.mpr (path.way.mem_objectNames member)
  have few := (path.once.subperm inside).length_le
  rwa [List.length_cons, List.length_map] at few

theorem simplePaths_all (start : a ∈ o.objectNames) (enough : (textSet o.objectNames).length - 1 ≤ depth) :
    o.simplePaths a b depth = {steps | o.SimplePath a steps b} := by
  ext steps
  refine and_iff_left_of_imp ?_
  intro path
  have few := path.length_lt start
  omega

end Turning
end Ontology

namespace JoinGraph
open Ontology

section Counts
variable {o : Ontology} {a b : String} {depth deeper : Nat}

/-- Either there can be no path between two objects, or the count is the number of paths. -/
theorem countPaths_cases (o : Ontology) (a b : String) :
    (∀ depth, (ofOntology o).countPaths a b depth = 0 ∧ (ofOntology o).countPaths b a depth = 0) ∨
    a ≠ b ∧ a ∈ o.objectNames ∧ b ∈ o.objectNames := by
  by_cases apart : a = b
  · exact .inl fun _ => ⟨countPaths_none (.inl apart), countPaths_none (.inl apart.symm)⟩
  by_cases left : a ∈ o.objectNames
  · by_cases right : b ∈ o.objectNames
    · exact .inr ⟨apart, left, right⟩
    · exact .inl fun _ => ⟨countPaths_none (.inr (.inr right)), countPaths_none (.inr (.inl right))⟩
  · exact .inl fun _ => ⟨countPaths_none (.inr (.inl left)), countPaths_none (.inr (.inr left))⟩

theorem countPaths_symm : (ofOntology o).countPaths a b depth = (ofOntology o).countPaths b a depth := by
  rcases countPaths_cases o a b with none | ⟨apart, left, right⟩
  · rw [(none depth).1, (none depth).2]
  · have same := le_antisymm (encard_simplePaths_le o a b depth) (encard_simplePaths_le o b a depth)
    rwa [countPaths_eq_encard left right apart, countPaths_eq_encard right left apart.symm, Nat.cast_inj] at same

theorem countPaths_mono (le : depth ≤ deeper) :
    (ofOntology o).countPaths a b depth ≤ (ofOntology o).countPaths a b deeper := by
  rcases countPaths_cases o a b with none | ⟨apart, left, right⟩
  · rw [(none depth).1, (none deeper).1]
  · have more : (o.simplePaths a b depth).encard ≤ (o.simplePaths a b deeper).encard :=
      Set.encard_le_encard (simplePaths_mono le)
    rwa [countPaths_eq_encard left right apart, countPaths_eq_encard left right apart, Nat.cast_le] at more

theorem countPaths_deep (enough : (ofOntology o).nodes.length - 1 ≤ depth) :
    (ofOntology o).countPaths a b depth = (ofOntology o).countPaths a b ((ofOntology o).nodes.length - 1) := by
  rcases countPaths_cases o a b with none | ⟨apart, left, right⟩
  · rw [(none _).1, (none _).1]
  · have same : o.simplePaths a b depth = o.simplePaths a b ((ofOntology o).nodes.length - 1) :=
      (simplePaths_all left enough).trans (simplePaths_all left le_rfl).symm
    rw [← Nat.cast_inj (R := ℕ∞), ← countPaths_eq_encard left right apart, ← countPaths_eq_encard left right apart,
      same]

/-- Objects with more than one path between them make an ambiguous pair, in the order of their names. -/
theorem exists_ambiguousPair (several : 2 ≤ (ofOntology o).countPaths a b depth) :
    ∃ p ∈ (ofOntology o).ambiguousPairs depth, p.pathCount = (ofOntology o).countPaths a b depth ∧
      (p.first = a ∧ p.second = b ∨ p.first = b ∧ p.second = a) := by
  have proper := proper_ofOntology o
  rcases countPaths_cases o a b with none | ⟨apart, left, right⟩
  · rw [(none depth).1] at several
    omega
  · rcases lt_or_gt_of_ne apart with less | more
    · refine ⟨⟨a, b, _⟩, (mem_ambiguousPairs proper).mpr ?_, rfl, .inl ⟨rfl, rfl⟩⟩
      exact ⟨mem_nodes.mpr left, mem_nodes.mpr right, less, rfl, several⟩
    · refine ⟨⟨b, a, _⟩, (mem_ambiguousPairs proper).mpr ?_, rfl, .inr ⟨rfl, rfl⟩⟩
      exact ⟨mem_nodes.mpr right, mem_nodes.mpr left, more, countPaths_symm, several⟩

end Counts

/-- The count of paths is the same in both directions and grows with the depth, up to the number of the other
objects; so it is enough to look at each pair of objects from one side. -/
theorem path_counts_settle (o : Ontology) (a b : String) :
    (∀ depth, (ofOntology o).countPaths a b depth = (ofOntology o).countPaths b a depth) ∧
    (∀ depth deeper, depth ≤ deeper →
      (ofOntology o).countPaths a b depth ≤ (ofOntology o).countPaths a b deeper) ∧
    (∀ depth, (ofOntology o).nodes.length - 1 ≤ depth →
      (ofOntology o).countPaths a b depth = (ofOntology o).countPaths a b ((ofOntology o).nodes.length - 1)) ∧
    ∀ depth, 2 ≤ (ofOntology o).countPaths a b depth →
      ∃ p ∈ (ofOntology o).ambiguousPairs depth, p.pathCount = (ofOntology o).countPaths a b depth ∧
        (p.first = a ∧ p.second = b ∨ p.first = b ∧ p.second = a) :=
  ⟨fun _ => countPaths_symm, fun _ _ le => countPaths_mono le, fun _ enough => countPaths_deep enough,
    fun _ several => exists_ambiguousPair several⟩

/-- Orders lead to addresses in two ways, and addresses back to orders; no longer path is left to be found. -/
theorem twice_sold_orders_settle :
    (ofOntology twiceSoldOrders).countPaths "Order" "Address" 2 = 2 ∧
    (ofOntology twiceSoldOrders).countPaths "Address" "Order" 2 = 2 ∧
    (ofOntology twiceSoldOrders).countPaths "Order" "Address" 1 ≤
      (ofOntology twiceSoldOrders).countPaths "Order" "Address" 2 ∧
    (ofOntology twiceSoldOrders).countPaths "Order" "Address" 100 = 2 ∧
    ∃ p ∈ (ofOntology twiceSoldOrders).ambiguousPairs 2, p.pathCount = 2 := by
  obtain ⟨both, grows, deep, ambiguous⟩ := path_counts_settle twiceSoldOrders "Order" "Address"
  have two : (ofOntology twiceSoldOrders).countPaths "Order" "Address" 2 = 2 := by decide
  have others : (ofOntology twiceSoldOrders).nodes.length - 1 = 2 := by decide
  refine ⟨two, (both 2).symm.trans two, grows 1 2 (by decide), ?_, ?_⟩
  · rw [deep 100 (by rw [others]; decide), others, two]
  · obtain ⟨p, listed, count, _⟩ := ambiguous 2 two.ge
    exact ⟨p, listed, count.trans two⟩

end JoinGraph
end SemanticLayer
