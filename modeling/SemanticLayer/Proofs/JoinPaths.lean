import SemanticLayer.Proofs.JoinComponents

/-! When objects can be joined in two ways. A path that is found shows that its ends are joined
(`joined_of_onward`), and nodes that are joined have a path between them that a deep enough search finds
(`walks_pos`). So an edge that closes a ring gives its two ends a second path (`two_walks`); and where no edge
closes one, two paths can never part and meet again (`walks_le_one`). Main statement:
`unambiguous_iff_forest`. -/
namespace SemanticLayer.JoinGraph

/-! ### The search for paths -/

/-- What a node adds to the number of paths when the search comes to it. -/
def onward (g : JoinGraph) (target : String) (depth : Nat) (visited : List String) (next : String) : Nat :=
  if next = target then 1 else if visited.contains next then 0 else g.walks target depth (next :: visited) next

section Search
variable {g h : JoinGraph} {target node next : String} {depth : Nat} {visited : List String}

theorem walks_succ : g.walks target (depth + 1) visited node =
    ((g.neighbours node).map (g.onward target depth visited)).sum := by
  rw [List.sum_eq_foldl]
  rfl

theorem onward_target : g.onward target depth visited target = 1 := if_pos rfl

theorem onward_visited (different : next ≠ target) (seen : next ∈ visited) :
    g.onward target depth visited next = 0 := by
  simp [onward, different, seen]

theorem onward_fresh (different : next ≠ target) (fresh : next ∉ visited) :
    g.onward target depth visited next = g.walks target depth (next :: visited) next := by
  simp [onward, different, fresh]

theorem onward_le (le : ∀ visited node, g.walks target depth visited node ≤ h.walks target depth visited node) :
    g.onward target depth visited next ≤ h.onward target depth visited next := by
  unfold onward
  split
  · exact Nat.le_refl 1
  · split
    · exact Nat.le_refl 0
    · exact le _ _

end Search

section More
variable {nodes : List String} {edges more : List (String × String)} {target node : String} {depth : Nat}
  {visited : List String}

theorem neighbours_sublist (sub : edges.Sublist more) :
    (neighbours ⟨nodes, edges⟩ node).Sublist (neighbours ⟨nodes, more⟩ node) :=
  sub.filterMap _

/-- More edges make more paths. -/
theorem walks_mono (sub : edges.Sublist more) :
    walks ⟨nodes, edges⟩ target depth visited node ≤ walks ⟨nodes, more⟩ target depth visited node := by
  induction depth generalizing visited node with
  | zero => exact Nat.le_refl 0
  | succ depth ih =>
    rw [walks_succ, walks_succ]
    calc
      _ ≤ ((neighbours ⟨nodes, edges⟩ node).map (onward ⟨nodes, more⟩ target depth visited)).sum :=
        List.sum_le_sum fun next _ => onward_le fun _ _ => ih
      _ ≤ _ := ((neighbours_sublist sub).map _).sum_le_sum fun _ _ => Nat.zero_le _

end More

/-! ### Paths and chains -/

/-- The edges neither end of which has been visited. -/
def avoiding (visited : List String) (edges : List (String × String)) : List (String × String) :=
  edges.filter fun e => !visited.contains e.1 && !visited.contains e.2

section Chains
variable {g : JoinGraph} {edges : List (String × String)} {a b target node next : String} {depth : Nat}
  {visited : List String}

theorem mem_avoiding {e : String × String} :
    e ∈ avoiding visited edges ↔ e ∈ edges ∧ e.1 ∉ visited ∧ e.2 ∉ visited := by
  simp [avoiding]

theorem linked_avoiding :
    Linked (avoiding visited edges) a b ↔ Linked edges a b ∧ a ∉ visited ∧ b ∉ visited := by
  simp only [Linked, mem_avoiding]
  tauto

theorem avoiding_nil : avoiding [] edges = edges := by
  simp [avoiding]

theorem avoiding_cons_subset : avoiding (node :: visited) edges ⊆ avoiding visited edges := by
  intro e kept
  obtain ⟨listed, first, second⟩ := mem_avoiding.mp kept
  exact mem_avoiding.mpr ⟨listed, List.not_mem_of_not_mem_cons first, List.not_mem_of_not_mem_cons second⟩

/-- A path that is counted is a chain of edges past the nodes that have been visited. -/
theorem joined_of_onward (counted : g.onward target depth visited next ≠ 0) (ahead : target ∉ visited) :
    next ∉ visited ∧ Joined (avoiding visited g.edges) next target := by
  induction depth generalizing visited next with
  | zero =>
    by_cases arrived : next = target
    · subst arrived
      exact ⟨ahead, .refl⟩
    · by_cases seen : next ∈ visited
      · exact absurd (onward_visited arrived seen) counted
      · exact absurd (onward_fresh arrived seen) counted
  | succ depth ih =>
    by_cases arrived : next = target
    · subst arrived
      exact ⟨ahead, .refl⟩
    · by_cases seen : next ∈ visited
      · exact absurd (onward_visited arrived seen) counted
      · rw [onward_fresh arrived seen, walks_succ] at counted
        obtain ⟨n, listed, some⟩ := List.exists_mem_ne_zero_of_sum_ne_zero counted
        obtain ⟨further, neighbour, rfl⟩ := List.mem_map.mp listed
        have stillAhead : target ∉ next :: visited := by
          simp [Ne.symm arrived, ahead]
        obtain ⟨fresh, chain⟩ := ih some stillAhead
        refine ⟨seen, .head ?_ (chain.mono avoiding_cons_subset)⟩
        exact linked_avoiding.mpr
          ⟨mem_neighbours.mp neighbour, seen, List.not_mem_of_not_mem_cons fresh⟩

/-- A chain that leaves a node can be cut to leave it for good. -/
theorem departure (chain : Joined (avoiding visited edges) node target) (apart : node ≠ target) :
    ∃ next, Linked (avoiding visited edges) node next ∧
      Joined (avoiding (node :: visited) edges) next target := by
  induction chain with
  | refl => exact absurd rfl apart
  | @tail z w _ link ih =>
    by_cases here : node = z
    · subst here
      exact ⟨w, link, .refl⟩
    · obtain ⟨next, first, rest⟩ := ih here
      obtain ⟨link, zFresh, wFresh⟩ := linked_avoiding.mp link
      refine ⟨next, first, rest.tail (linked_avoiding.mpr ⟨link, ?_, ?_⟩)⟩
      · simp [Ne.symm here, zFresh]
      · simp [Ne.symm apart, wFresh]

theorem fresh_of_joined (chain : Joined (avoiding visited edges) a b) (fresh : a ∉ visited) : b ∉ visited := by
  cases chain with
  | refl => exact fresh
  | tail _ link => exact (linked_avoiding.mp link).2.2

/-- Where a chain leads on past the nodes visited, there is a path with fewer edges than there are nodes
left. -/
theorem walks_pos (proper : g.Proper) (distinct : (node :: visited).Nodup)
    (inside : node :: visited ⊆ g.nodes) (apart : node ≠ target)
    (chain : Joined (avoiding visited g.edges) node target)
    (enough : g.nodes.length ≤ depth + visited.length + 1) :
    g.walks target depth (node :: visited) node ≠ 0 := by
  induction depth generalizing visited node with
  | zero =>
    have whole : Joined g.edges node target := chain.mono fun e kept => (mem_avoiding.mp kept).1
    have targetInside : target ∈ g.nodes := proper.mem_of_joined (inside List.mem_cons_self) whole
    have targetFresh : target ∉ visited := fresh_of_joined chain (List.nodup_cons.mp distinct).1
    have further : (target :: node :: visited).Nodup := by
      refine List.nodup_cons.mpr ⟨?_, distinct⟩
      simp [Ne.symm apart, targetFresh]
    have left := (further.subperm (List.cons_subset.mpr ⟨targetInside, inside⟩)).length_le
    simp only [List.length_cons] at left
    omega
  | succ depth ih =>
    obtain ⟨next, link, rest⟩ := departure chain apart
    obtain ⟨link, _, unseen⟩ := linked_avoiding.mp link
    rw [walks_succ]
    intro none
    have skipped : g.onward target depth (node :: visited) next = 0 :=
      List.sum_eq_zero_iff.mp none _ (List.mem_map_of_mem (mem_neighbours.mpr link))
    by_cases arrived : next = target
    · subst arrived
      rw [onward_target] at skipped
      exact absurd skipped Nat.one_ne_zero
    · have fresh : next ∉ node :: visited := by
        simp [(proper.ne_of_linked link).symm, unseen]
      rw [onward_fresh arrived fresh] at skipped
      refine ih ?_ ?_ arrived rest ?_ skipped
      · exact List.nodup_cons.mpr ⟨fresh, distinct⟩
      · exact List.cons_subset.mpr ⟨proper.mem_of_linked link, inside⟩
      · rw [List.length_cons]
        omega

end Chains

/-! ### Rings -/

/-- No edge leads between nodes that the others join. -/
def Ringless (edges : List (String × String)) : Prop :=
  ∀ e rest, edges.Perm (e :: rest) → ¬ Joined rest e.1 e.2

/-- Numbers up to one, of any two of which one is zero. -/
theorem sum_le_one {f : α → Nat} {l : List α} (each : ∀ x ∈ l, f x ≤ 1)
    (one : l.Pairwise fun x y => f x = 0 ∨ f y = 0) : (l.map f).sum ≤ 1 := by
  induction l with
  | nil => exact Nat.zero_le 1
  | cons x l ih =>
    obtain ⟨head, tail⟩ := List.pairwise_cons.mp one
    obtain ⟨first, later⟩ := List.forall_mem_cons.mp each
    rw [List.map_cons, List.sum_cons]
    by_cases zero : f x = 0
    · rw [zero, Nat.zero_add]
      exact ih later tail
    · have rest : (l.map f).sum = 0 := by
        apply List.sum_eq_zero_iff.mpr
        intro n listed
        obtain ⟨y, member, rfl⟩ := List.mem_map.mp listed
        exact (head y member).resolve_left zero
      rw [rest]
      exact first

section Rings
variable {g : JoinGraph} {nodes : List String} {edges : List (String × String)} {a b target node : String}
  {depth : Nat} {visited : List String}

/-- Two paths that part at a node make a ring when they meet again. -/
theorem parted_once (ringless : Ringless g.edges) (ahead : target ∉ visited) (here : node ∈ visited) :
    (g.neighbours node).Pairwise fun x y =>
      g.onward target depth visited x = 0 ∨ g.onward target depth visited y = 0 := by
  unfold neighbours
  rw [List.pairwise_filterMap, List.pairwise_iff_forall_sublist]
  intro e f both x first y second
  by_contra counted
  push Not at counted
  obtain ⟨_, fromFirst⟩ := joined_of_onward counted.1 ahead
  obtain ⟨_, fromSecond⟩ := joined_of_onward counted.2 ahead
  obtain ⟨rest, perm⟩ := both.exists_perm_append
  have eEnds := ends_of_neighbour first
  have fEnds := ends_of_neighbour second
  -- Past the node, neither of the two edges is used.
  have others : avoiding visited g.edges ⊆ rest := by
    intro d kept
    obtain ⟨listed, firstFresh, secondFresh⟩ := mem_avoiding.mp kept
    rcases List.mem_append.mp (perm.mem_iff.mp listed) with parted | other
    · rcases List.mem_cons.mp parted with rfl | last
      · rcases eEnds with rfl | rfl
        · exact absurd here firstFresh
        · exact absurd here secondFresh
      · cases List.mem_singleton.mp last
        rcases fEnds with rfl | rfl
        · exact absurd here firstFresh
        · exact absurd here secondFresh
    · exact other
  have met : Joined (f :: rest) x y :=
    (fromFirst.trans fromSecond.symm).mono (List.subset_cons_of_subset f others)
  have back : Joined (f :: rest) y node := by
    rcases fEnds with rfl | rfl
    · exact .single (.inr List.mem_cons_self)
    · exact .single (.inl List.mem_cons_self)
  have ring : Joined (f :: rest) e.1 e.2 := by
    rcases eEnds with rfl | rfl
    · exact (met.trans back).symm
    · exact met.trans back
  exact ringless e (f :: rest) perm ring

/-- Without rings there is at most one path, however far it may go. -/
theorem walks_le_one (ringless : Ringless g.edges) (ahead : target ∉ visited) (here : node ∈ visited) :
    g.walks target depth visited node ≤ 1 := by
  induction depth generalizing visited node with
  | zero => exact Nat.zero_le 1
  | succ depth ih =>
    rw [walks_succ]
    refine sum_le_one ?_ (parted_once ringless ahead here)
    intro next _
    by_cases arrived : next = target
    · rw [arrived, onward_target]
    · by_cases seen : next ∈ visited
      · rw [onward_visited arrived seen]
        exact Nat.zero_le 1
      · rw [onward_fresh arrived seen]
        refine ih ?_ List.mem_cons_self
        simp [Ne.symm arrived, ahead]

/-- An edge that closes a ring is a second path between its two ends. -/
theorem two_walks {e : String × String} (proper : Proper ⟨nodes, e :: edges⟩) (closes : Joined edges e.1 e.2)
    (ends : e = (a, b) ∨ e = (b, a)) (enough : nodes.length ≤ depth + 1) :
    2 ≤ walks ⟨nodes, e :: edges⟩ b depth [a] a := by
  have first := proper.first e List.mem_cons_self
  have second := proper.second e List.mem_cons_self
  have apart := proper.apart e List.mem_cons_self
  have ready : a ∈ nodes ∧ a ≠ b ∧ Joined edges a b := by
    rcases ends with rfl | rfl
    · exact ⟨first, apart, closes⟩
    · exact ⟨second, apart.symm, closes.symm⟩
  obtain ⟨inside, different, chain⟩ := ready
  have around : walks ⟨nodes, edges⟩ b depth [a] a ≠ 0 := by
    apply walks_pos proper.tail (List.nodup_singleton a) _ different
    · rwa [avoiding_nil]
    · exact enough
    · simpa using inside
  cases depth with
  | zero => exact absurd rfl around
  | succ depth =>
    have direct : neighbours ⟨nodes, e :: edges⟩ a = b :: neighbours ⟨nodes, edges⟩ a := by
      rcases ends with rfl | rfl
      · simp [neighbours]
      · simp [neighbours, different.symm]
    have more : ((neighbours ⟨nodes, edges⟩ a).map (onward ⟨nodes, edges⟩ b depth [a])).sum ≤
        ((neighbours ⟨nodes, edges⟩ a).map (onward ⟨nodes, e :: edges⟩ b depth [a])).sum :=
      List.sum_le_sum fun next _ => onward_le fun _ _ => walks_mono (List.sublist_cons_self e edges)
    rw [walks_succ] at around ⊢
    rw [direct, List.map_cons, List.sum_cons, onward_target]
    omega

/-- A graph with as many nodes as edges and components together has no ring. -/
theorem ringless_of_count (proper : Proper ⟨nodes, edges⟩)
    (count : nodes.length = edges.length + (leaders ⟨nodes, edges⟩).length) : Ringless edges := by
  intro e rest perm closes
  have same : ∀ x y, Joined edges x y ↔ Joined rest x y := by
    intro x y
    rw [← joined_cons_of_joined closes]
    exact ⟨fun chain => chain.mono perm.subset, fun chain => chain.mono perm.symm.subset⟩
  have fewer : rest ⊆ edges := fun d listed => perm.symm.subset (List.mem_cons_of_mem e listed)
  have bound := nodes_le (proper.mono fewer)
  rw [leaders_congr same, perm.length_eq, List.length_cons] at count
  omega

/-- A graph without a second path between any two nodes has as many nodes as edges and components
together. -/
theorem count_of_walks (proper : Proper ⟨nodes, edges⟩) (enough : nodes.length ≤ depth + 1)
    (single : ∀ a ∈ nodes, ∀ b ∈ nodes, a < b → walks ⟨nodes, edges⟩ b depth [a] a ≤ 1) :
    nodes.length = edges.length + (leaders ⟨nodes, edges⟩).length := by
  induction edges with
  | nil => rw [leaders_nil, List.length_nil, Nat.zero_add]
  | cons e edges ih =>
    obtain ⟨u, v⟩ := e
    have before := ih proper.tail fun a left b right less =>
      (walks_mono (List.sublist_cons_self _ _)).trans (single a left b right less)
    have inside := proper.first _ List.mem_cons_self
    have insideToo := proper.second _ List.mem_cons_self
    have opens : ¬ Joined edges u v := by
      intro closes
      rcases lt_or_gt_of_ne (proper.apart _ List.mem_cons_self) with less | more
      · exact absurd (single u inside v insideToo less)
          (not_le_of_gt (two_walks proper closes (.inl rfl) enough))
      · exact absurd (single v insideToo u inside more)
          (not_le_of_gt (two_walks proper closes (.inr rfl) enough))
    rw [before, leaders_cons proper opens, List.length_cons]
    omega

end Rings

/-! ### Ambiguous pairs -/

/-- As many nodes as edges and components together: relationships between objects form trees. -/
def IsForest (g : JoinGraph) : Prop := g.nodes.length = g.edges.length + g.components.length

instance (g : JoinGraph) : Decidable g.IsForest :=
  inferInstanceAs (Decidable (g.nodes.length = g.edges.length + g.components.length))

section Pairs
variable {g : JoinGraph} {a b : String} {depth : Nat}

theorem mem_pairs {nodes : List String} (sorted : nodes.Pairwise (· < ·)) :
    (a, b) ∈ pairs nodes ↔ a ∈ nodes ∧ b ∈ nodes ∧ a < b := by
  induction nodes with
  | nil => simp [pairs]
  | cons x rest ih =>
    obtain ⟨head, tail⟩ := List.pairwise_cons.mp sorted
    simp only [pairs, List.mem_append, List.mem_map, Prod.mk.injEq, ih tail, List.mem_cons]
    constructor
    · rintro (⟨y, later, rfl, rfl⟩ | ⟨left, right, less⟩)
      · exact ⟨.inl rfl, .inr later, head y later⟩
      · exact ⟨.inr left, .inr right, less⟩
    · rintro ⟨rfl | left, rfl | right, less⟩
      · exact absurd less (lt_irrefl _)
      · exact .inl ⟨b, right, rfl, rfl⟩
      · exact absurd less (lt_asymm (head a left))
      · exact .inr ⟨left, right, less⟩

theorem countPaths_eq (left : a ∈ g.nodes) (right : b ∈ g.nodes) (apart : a ≠ b) :
    g.countPaths a b depth = g.walks b depth [a] a := by
  simp [countPaths, left, right, apart]

theorem ambiguousPairs_eq_nil (proper : g.Proper) : g.ambiguousPairs depth = [] ↔
    ∀ a ∈ g.nodes, ∀ b ∈ g.nodes, a < b → g.walks b depth [a] a ≤ 1 := by
  unfold ambiguousPairs
  rw [List.filterMap_eq_nil_iff]
  constructor
  · intro none a left b right less
    have silent := none (a, b) ((mem_pairs proper.sorted).mpr ⟨left, right, less⟩)
    rw [← countPaths_eq left right (ne_of_lt less)]
    by_contra more
    simp [not_le.mp more] at silent
  · rintro single ⟨a, b⟩ listed
    obtain ⟨left, right, less⟩ := (mem_pairs proper.sorted).mp listed
    have few := single a left b right less
    rw [← countPaths_eq left right (ne_of_lt less)] at few
    simp [not_lt_of_ge few]

theorem isForest_iff (proper : g.Proper) :
    g.IsForest ↔ g.nodes.length = g.edges.length + g.leaders.length := by
  rw [IsForest, components_eq proper, List.length_map]

end Pairs

/-- The graph of an ontology has no ambiguous pair of objects just if it is a forest, if paths may have as
many edges as there are other objects; in a forest there is none however long paths may be. -/
theorem unambiguous_iff_forest (o : Ontology) :
    (∀ depth, (ofOntology o).nodes.length - 1 ≤ depth →
      ((ofOntology o).ambiguousPairs depth = [] ↔ (ofOntology o).IsForest)) ∧
    ((ofOntology o).IsForest → ∀ depth, (ofOntology o).ambiguousPairs depth = []) := by
  have proper := proper_ofOntology o
  have unambiguous : (ofOntology o).IsForest → ∀ depth, (ofOntology o).ambiguousPairs depth = [] := by
    intro forest depth
    have ringless := ringless_of_count proper ((isForest_iff proper).mp forest)
    refine (ambiguousPairs_eq_nil proper).mpr ?_
    intro a _ b _ less
    exact walks_le_one ringless (by simp [(ne_of_lt less).symm]) List.mem_cons_self
  refine ⟨?_, unambiguous⟩
  intro depth enough
  constructor
  · intro none
    apply (isForest_iff proper).mpr
    exact count_of_walks proper (by omega) ((ambiguousPairs_eq_nil proper).mp none)
  · intro forest
    exact unambiguous forest depth

/-- Orders, the customers who placed them and addresses, with the given relationships. -/
def addressedOrders (joins : List (String × String)) : Ontology where
  version := "1.0.0"
  name := "sales"
  description := ""
  objects := ["Address", "Customer", "Order"].map fun name => ⟨name, "", [], [], none, none, none⟩
  relationships := joins.map fun (source, target) => ⟨"", source, target, [], .manyToOne, ""⟩
  metrics := []
  dimensions := []
  mapping := none

/-- Orders that have an address of their own beside that of the customer are joined to addresses in two
ways; without it they are not. -/
theorem addressed_orders_ambiguous :
    (ofOntology (addressedOrders [("Order", "Customer"), ("Customer", "Address"), ("Order", "Address")])).nodes.length
        - 1 ≤ maxDepth ∧
    (ofOntology (addressedOrders [("Order", "Customer"), ("Customer", "Address"), ("Order", "Address")])).ambiguousPairs
        maxDepth ≠ [] ∧
    (ofOntology (addressedOrders [("Order", "Customer"), ("Customer", "Address")])).IsForest ∧
    (ofOntology (addressedOrders [("Order", "Customer"), ("Customer", "Address")])).ambiguousPairs 100 = [] := by
  refine ⟨by decide, ?_, by decide, (unambiguous_iff_forest _).2 (by decide) 100⟩
  intro none
  have ring := ((unambiguous_iff_forest _).1 maxDepth (by decide)).mp none
  exact absurd ring (by decide)

end SemanticLayer.JoinGraph
