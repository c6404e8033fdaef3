import SemanticLayer.Proofs.Crossings
import SemanticLayer.Proofs.JoinPaths

/-! What the search for paths counts. A path takes one relationship after another and comes to no object twice
(`Ontology.SimplePath`). The search finds each path of bounded length once: its count is the length of a list
(`walks_eq`) that has no path twice (`trails_nodup`) and has just the paths past the nodes that have been
visited (`mem_trails`). Main statement: `paths_counted`. -/
namespace SemanticLayer

namespace Ontology

/-- A way from one object to another: the places of the relationships that it takes, each with the object that
it leads to. -/
inductive Way (o : Ontology) : String → List (Nat × String) → String → Prop
  | stay (a : String) : Way o a [] a
  | go {place : Nat} {a b c : String} {rest : List (Nat × String)} (crosses : o.Crosses place a b)
      (onward : Way o b rest c) : Way o a ((place, b) :: rest) c

/-- A way that comes to no object twice. -/
structure SimplePath (o : Ontology) (a : String) (steps : List (Nat × String)) (b : String) : Prop where
  way : o.Way a steps b
  once : (a :: steps.map Prod.snd).Nodup

/-- The simple paths from one object to another that take at most `depth` relationships. -/
def simplePaths (o : Ontology) (a b : String) (depth : Nat) : Set (List (Nat × String)) :=
  {steps | o.SimplePath a steps b ∧ steps.length ≤ depth}

/-- What is left of a path past the objects that have been visited: it leads somewhere else, and to no object
that it has come to before. -/
structure WayPast (o : Ontology) (visited : List String) (a : String) (steps : List (Nat × String))
    (b : String) : Prop where
  way : o.Way a steps b
  moves : steps ≠ []
  once : (steps.map Prod.snd).Nodup
  past : ∀ x ∈ steps.map Prod.snd, x ∉ visited

section Ways
variable {o : Ontology} {place : Nat} {a b c x target : String} {steps rest : List (Nat × String)}
  {visited : List String}

theorem Way.last_mem (way : o.Way a steps b) (moves : steps ≠ []) : b ∈ steps.map Prod.snd := by
  induction way with
  | stay => exact absurd rfl moves
  | @go place a b c rest crosses onward ih =>
    rw [List.map_cons, List.mem_cons]
    cases rest with
    | nil =>
      cases onward
      exact .inl rfl
    | cons => exact .inr (ih (List.cons_ne_nil _ _))

theorem Way.mem_objectNames (way : o.Way a steps b) (member : x ∈ steps.map Prod.snd) : x ∈ o.objectNames := by
  induction way with
  | stay => cases member
  | go crosses _ ih =>
    rcases List.mem_cons.mp member with rfl | later
    · exact crosses.2.2.1
    · exact ih later

/-- A way past the visited objects ends when it comes to the target, and goes on from any other object. -/
theorem wayPast_cons : o.WayPast visited a ((place, b) :: rest) target ↔
    o.Crosses place a b ∧ b ∉ visited ∧
      (b = target ∧ rest = [] ∨ b ≠ target ∧ o.WayPast (b :: visited) b rest target) := by
  constructor
  · rintro ⟨way, _, once, past⟩
    cases way with
    | go crosses onward =>
      rw [List.map_cons, List.nodup_cons] at once
      rw [List.map_cons, List.forall_mem_cons] at past
      refine ⟨crosses, past.1, ?_⟩
      by_cases arrived : b = target
      · refine .inl ⟨arrived, ?_⟩
        by_contra moves
        exact once.1 (arrived ▸ onward.last_mem moves)
      · refine .inr ⟨arrived, onward, ?_, once.2, ?_⟩
        · rintro rfl
          cases onward
          exact arrived rfl
        · intro x listed known
          rcases List.mem_cons.mp known with rfl | earlier
          · exact once.1 listed
          · exact past.2 x listed earlier
  · rintro ⟨crosses, fresh, ⟨rfl, rfl⟩ | ⟨_, onward, _, once, past⟩⟩
    · refine ⟨.go crosses (.stay b), List.cons_ne_nil _ _, List.nodup_singleton b, ?_⟩
      simpa using fresh
    · refine ⟨.go crosses onward, List.cons_ne_nil _ _, ?_, ?_⟩
      · refine List.nodup_cons.mpr ⟨?_, once⟩
        intro again
        exact past b again List.mem_cons_self
      · refine List.forall_mem_cons.mpr ⟨fresh, ?_⟩
        intro x listed earlier
        exact past x listed (List.mem_cons_of_mem b earlier)

theorem simplePath_iff (apart : a ≠ b) : o.SimplePath a steps b ↔ o.WayPast [a] a steps b := by
  constructor
  · rintro ⟨way, once⟩
    obtain ⟨fresh, distinct⟩ := List.nodup_cons.mp once
    refine ⟨way, ?_, distinct, ?_⟩
    · rintro rfl
      cases way
      exact apart rfl
    · rintro x listed known
      cases List.mem_singleton.mp known
      exact fresh listed
  · rintro ⟨way, _, once, past⟩
    refine ⟨way, List.nodup_cons.mpr ⟨?_, once⟩⟩
    intro again
    exact past a again (List.mem_singleton_self a)

end Ways
end Ontology

namespace JoinGraph

/-! ### The paths that a search finds -/

/-- The paths that the search for a target finds from a node, past the nodes that have been visited. -/
def trails (o : Ontology) (target : String) : Nat → List String → String → List (List (Nat × String))
  | 0, _, _ => []
  | depth + 1, visited, node =>
    (crossings o node).flatMap fun crossing =>
      if crossing.2 = target then [[crossing]]
      else if visited.contains crossing.2 then []
      else (trails o target depth (crossing.2 :: visited) crossing.2).map (crossing :: ·)

/-- The paths among them that start with a crossing. -/
def trailsOver (o : Ontology) (target : String) (depth : Nat) (visited : List String) (crossing : Nat × String) :
    List (List (Nat × String)) :=
  if crossing.2 = target then [[crossing]]
  else if visited.contains crossing.2 then []
  else (trails o target depth (crossing.2 :: visited) crossing.2).map (crossing :: ·)

section Trails
variable {o : Ontology} {target node a b : String} {depth : Nat} {visited : List String}
  {crossing : Nat × String} {steps rest : List (Nat × String)}

theorem trails_succ : trails o target (depth + 1) visited node =
    (crossings o node).flatMap (trailsOver o target depth visited) := rfl

theorem trailsOver_length
    (counted : ∀ visited node, (ofOntology o).walks target depth visited node =
      (trails o target depth visited node).length) :
    (ofOntology o).onward target depth visited crossing.2 = (trailsOver o target depth visited crossing).length := by
  unfold trailsOver onward
  split
  · rfl
  · split
    · rfl
    · rw [List.length_map, counted]

/-- The search counts the paths that it finds. -/
theorem walks_eq : (ofOntology o).walks target depth visited node = (trails o target depth visited node).length := by
  induction depth generalizing visited node with
  | zero => rfl
  | succ depth ih =>
    rw [walks_succ, trails_succ, List.length_flatMap, neighbours_eq, List.map_map]
    congr 1
    refine List.map_congr_left fun crossing _ => ?_
    exact trailsOver_length fun _ _ => ih

theorem trailsOver_starts (found : steps ∈ trailsOver o target depth visited crossing) :
    ∃ rest, steps = crossing :: rest := by
  unfold trailsOver at found
  split at found
  · exact ⟨[], List.mem_singleton.mp found⟩
  · split at found
    · cases found
    · obtain ⟨rest, _, rfl⟩ := List.mem_map.mp found
      exact ⟨rest, rfl⟩

/-- No path is found twice: paths over different crossings differ in their first step. -/
theorem trails_nodup : (trails o target depth visited node).Nodup := by
  induction depth generalizing visited node with
  | zero => exact List.nodup_nil
  | succ depth ih =>
    rw [trails_succ, List.nodup_flatMap]
    constructor
    · intro crossing _
      unfold trailsOver
      split
      · exact List.nodup_singleton _
      · split
        · exact List.nodup_nil
        · exact ih.map (List.cons_injective)
    · refine crossings_nodup.imp ?_
      intro first second apart steps left right
      obtain ⟨_, rfl⟩ := trailsOver_starts left
      obtain ⟨_, same⟩ := trailsOver_starts right
      exact apart (List.cons.inj same).1

/-- What is found over a crossing is found on its other side, unless the target is there. -/
theorem mem_trailsOver (place : Nat) (next : String) (rest : List (Nat × String)) (ahead : target ∉ visited)
    (found : ∀ visited node steps, target ∉ visited → (steps ∈ trails o target depth visited node ↔
      o.WayPast visited node steps target ∧ steps.length ≤ depth)) :
    (place, next) :: rest ∈ trailsOver o target depth visited (place, next) ↔ next ∉ visited ∧
      (next = target ∧ rest = [] ∨ next ≠ target ∧ o.WayPast (next :: visited) next rest target) ∧
      rest.length ≤ depth := by
  unfold trailsOver
  by_cases arrived : next = target
  · subst arrived
    constructor
    · intro same
      rw [if_pos rfl, List.mem_singleton] at same
      cases (List.cons.inj same).2
      exact ⟨ahead, .inl ⟨rfl, rfl⟩, Nat.zero_le _⟩
    · rintro ⟨_, ⟨_, rfl⟩ | ⟨different, _⟩, _⟩
      · simp
      · exact absurd rfl different
  · rw [if_neg arrived]
    by_cases seen : next ∈ visited
    · simp [seen]
    · have stillAhead : target ∉ next :: visited := by
        simp [Ne.symm arrived, ahead]
      simp [arrived, seen, found _ _ _ stillAhead]

/-- Just the paths past the visited nodes are found, as long as the target is not among these. -/
theorem mem_trails (ahead : target ∉ visited) : steps ∈ trails o target depth visited node ↔
    o.WayPast visited node steps target ∧ steps.length ≤ depth := by
  induction depth generalizing visited node steps with
  | zero =>
    simp only [trails, List.not_mem_nil, false_iff, not_and, Nat.le_zero, List.length_eq_zero_iff]
    intro passes
    exact passes.moves
  | succ depth ih =>
    rw [trails_succ, List.mem_flatMap]
    cases steps with
    | nil =>
      constructor
      · rintro ⟨_, _, found⟩
        obtain ⟨_, same⟩ := trailsOver_starts found
        cases same
      · rintro ⟨passes, _⟩
        exact absurd rfl passes.moves
    | cons crossing rest =>
      obtain ⟨place, next⟩ := crossing
      rw [Ontology.wayPast_cons, List.length_cons, Nat.add_le_add_iff_right, ← mem_crossings]
      have beyond := mem_trailsOver place next rest ahead fun _ _ _ stillAhead => ih stillAhead
      constructor
      · rintro ⟨crossing, listed, found⟩
        obtain ⟨_, same⟩ := trailsOver_starts found
        cases (List.cons.inj same).1
        obtain ⟨fresh, onward, short⟩ := beyond.mp found
        exact ⟨⟨listed, fresh, onward⟩, short⟩
      · rintro ⟨⟨listed, fresh, onward⟩, short⟩
        exact ⟨_, listed, beyond.mpr ⟨fresh, onward, short⟩⟩

/-- Between different objects, the search counts the simple paths. -/
theorem encard_simplePaths (apart : a ≠ b) :
    (o.simplePaths a b depth).encard = (ofOntology o).walks b depth [a] a := by
  have ahead : b ∉ [a] := by simpa using apart.symm
  have listed : o.simplePaths a b depth = (trails o b depth [a] a).toFinset := by
    ext steps
    rw [List.coe_toFinset]
    exact (and_congr_left fun _ => Ontology.simplePath_iff apart).trans (mem_trails ahead).symm
  rw [listed, Set.encard_coe_eq_coe_finsetCard, List.toFinset_card_of_nodup trails_nodup, walks_eq]

/-- Between different objects that are declared, so does the count of paths. -/
theorem countPaths_eq_encard (left : a ∈ o.objectNames) (right : b ∈ o.objectNames) (apart : a ≠ b) :
    (o.simplePaths a b depth).encard = (ofOntology o).countPaths a b depth := by
  rw [countPaths_eq (mem_nodes.mpr left) (mem_nodes.mpr right) apart, encard_simplePaths apart]

theorem countPaths_none (none : a = b ∨ a ∉ o.objectNames ∨ b ∉ o.objectNames) :
    (ofOntology o).countPaths a b depth = 0 := by
  simp only [← mem_nodes] at none
  rcases none with same | missing | missing <;> simp [countPaths, *]

end Trails

/-! ### Ambiguous pairs -/

/-- Pairs of objects in the order of their names. -/
def PairLt (p q : AmbiguousPair) : Prop := p.first < q.first ∨ p.first = q.first ∧ p.second < q.second

section Pairs
variable {g : JoinGraph} {p : AmbiguousPair} {depth : Nat} {nodes : List String}

theorem pairs_sorted (sorted : nodes.Pairwise (· < ·)) :
    (pairs nodes).Pairwise fun p q => p.1 < q.1 ∨ p.1 = q.1 ∧ p.2 < q.2 := by
  induction nodes with
  | nil => exact .nil
  | cons x rest ih =>
    obtain ⟨head, tail⟩ := List.pairwise_cons.mp sorted
    rw [pairs, List.pairwise_append, List.pairwise_map]
    refine ⟨tail.imp fun less => .inr ⟨rfl, less⟩, ih tail, ?_⟩
    rintro ⟨_, _⟩ first ⟨a, b⟩ later
    obtain ⟨_, _, same⟩ := List.mem_map.mp first
    cases same
    exact .inl (head a ((mem_pairs tail).mp later).1)

theorem mem_ambiguousPairs (proper : g.Proper) : p ∈ g.ambiguousPairs depth ↔
    p.first ∈ g.nodes ∧ p.second ∈ g.nodes ∧ p.first < p.second ∧
      g.countPaths p.first p.second depth = p.pathCount ∧ 2 ≤ p.pathCount := by
  unfold ambiguousPairs
  rw [List.mem_filterMap]
  constructor
  · rintro ⟨⟨a, b⟩, listed, made⟩
    obtain ⟨left, right, less⟩ := (mem_pairs proper.sorted).mp listed
    by_cases several : 1 < g.countPaths a b depth
    · simp only [several, ↓reduceIte, Option.some.injEq] at made
      subst made
      exact ⟨left, right, less, rfl, several⟩
    · simp [several] at made
  · rintro ⟨left, right, less, count, several⟩
    refine ⟨(p.first, p.second), (mem_pairs proper.sorted).mpr ⟨left, right, less⟩, ?_⟩
    have more : 1 < p.pathCount := several
    simp [count, more]

theorem ambiguousPairs_sorted (proper : g.Proper) : (g.ambiguousPairs depth).Pairwise PairLt := by
  unfold ambiguousPairs
  rw [List.pairwise_filterMap]
  refine (pairs_sorted proper.sorted).imp ?_
  rintro ⟨a, b⟩ ⟨c, d⟩ less p first q second
  by_cases several : 1 < g.countPaths a b depth
  · by_cases severalToo : 1 < g.countPaths c d depth
    · simp only [several, ↓reduceIte, Option.some.injEq] at first
      simp only [severalToo, ↓reduceIte, Option.some.injEq] at second
      subst first second
      exact less
    · simp [severalToo] at second
  · simp [several] at first

end Pairs

/-- The count of paths is the number of simple paths, none from an object to itself or where an object is not
declared; and the ambiguous pairs are, in order and each once, the pairs of objects with more than one simple
path, with their number. -/
theorem paths_counted (o : Ontology) (depth : Nat) :
    (∀ a b, a = b ∨ a ∉ o.objectNames ∨ b ∉ o.objectNames → (ofOntology o).countPaths a b depth = 0) ∧
    (∀ a ∈ o.objectNames, ∀ b ∈ o.objectNames, a ≠ b →
      (o.simplePaths a b depth).encard = (ofOntology o).countPaths a b depth) ∧
    ((ofOntology o).ambiguousPairs depth).Pairwise PairLt ∧
    ∀ p, p ∈ (ofOntology o).ambiguousPairs depth ↔
      p.first ∈ o.objectNames ∧ p.second ∈ o.objectNames ∧ p.first < p.second ∧
        (o.simplePaths p.first p.second depth).encard = p.pathCount ∧ 2 ≤ p.pathCount := by
  have proper := proper_ofOntology o
  have counted : ∀ a ∈ o.objectNames, ∀ b ∈ o.objectNames, a ≠ b →
      (o.simplePaths a b depth).encard = (ofOntology o).countPaths a b depth := fun _ left _ right apart =>
    countPaths_eq_encard left right apart
  refine ⟨fun a b none => countPaths_none none, counted, ambiguousPairs_sorted proper, ?_⟩
  intro p
  rw [mem_ambiguousPairs proper]
  constructor
  · rintro ⟨left, right, less, count, several⟩
    have number := counted p.first (mem_nodes.mp left) p.second (mem_nodes.mp right) (ne_of_lt less)
    exact ⟨mem_nodes.mp left, mem_nodes.mp right, less, by rw [number, count], several⟩
  · rintro ⟨left, right, less, count, several⟩
    have number := counted p.first left p.second right (ne_of_lt less)
    rw [count, Nat.cast_inj] at number
    exact ⟨mem_nodes.mpr left, mem_nodes.mpr right, less, number.symm, several⟩

/-- Orders have two relationships to customers, and customers one to addresses. -/
def twiceSoldOrders : Ontology :=
  addressedOrders [("Order", "Customer"), ("Order", "Customer"), ("Customer", "Address")]

/-- Relationships with the same name and ends make paths of their own. -/
theorem twice_sold_orders_counted :
    (ofOntology twiceSoldOrders).countPaths "Order" "Invoice" 2 = 0 ∧
    (twiceSoldOrders.simplePaths "Order" "Address" 2).encard = 2 ∧
    (ofOntology twiceSoldOrders).countPaths "Order" "Address" 1 = 0 ∧
    ⟨"Address", "Order", 2⟩ ∈ (ofOntology twiceSoldOrders).ambiguousPairs 2 := by
  obtain ⟨none, counted, _, ambiguous⟩ := paths_counted twiceSoldOrders 2
  have two := counted "Address" (by decide) "Order" (by decide) (by decide)
  refine ⟨none _ _ (.inr (.inr (by decide))), ?_, by decide, ?_⟩
  · rw [counted "Order" (by decide) "Address" (by decide) (by decide)]
    exact congrArg Nat.cast (by decide : (ofOntology twiceSoldOrders).countPaths "Order" "Address" 2 = 2)
  · refine (ambiguous _).mpr ⟨by decide, by decide, by decide, two.trans ?_, by decide⟩
    exact congrArg Nat.cast (by decide : (ofOntology twiceSoldOrders).countPaths "Address" "Order" 2 = 2)

end JoinGraph
end SemanticLayer
