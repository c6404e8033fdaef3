import SemanticLayer.Evaluation.JoinGraph
import SemanticLayer.Proofs.TextOrder

/-! Which objects of a graph of joins hang together. A search looks at the neighbours of one node after
another and is over when its queue is empty, which takes no more steps than there are nodes (`search_over`).
It finds just the nodes that a chain of edges leads to (`mem_search`), so there is a component for each node
that no smaller one is joined to (`components_eq`). An edge that is added either closes a ring or makes one
component of two (`leaders_cons`), so a graph never has more nodes than edges and components together
(`nodes_le`). -/
namespace SemanticLayer.JoinGraph

/-! ### Chains of edges -/

/-- An edge leads from one node to another or back. -/
def Linked (edges : List (String × String)) (a b : String) : Prop := (a, b) ∈ edges ∨ (b, a) ∈ edges

/-- A chain of edges leads from one node to another. -/
def Joined (edges : List (String × String)) : String → String → Prop :=
  Relation.ReflTransGen (Linked edges)

/-- The nodes are in order, and every edge leads between two different ones of them. -/
structure Proper (g : JoinGraph) : Prop where
  sorted : g.nodes.Pairwise (· < ·)
  first : ∀ e ∈ g.edges, e.1 ∈ g.nodes
  second : ∀ e ∈ g.edges, e.2 ∈ g.nodes
  apart : ∀ e ∈ g.edges, e.1 ≠ e.2

theorem proper_ofOntology (o : Ontology) : (ofOntology o).Proper := by
  have edge : ∀ e ∈ (ofOntology o).edges,
      e.1 ∈ (ofOntology o).nodes ∧ e.2 ∈ (ofOntology o).nodes ∧ e.1 ≠ e.2 := by
    intro e listed
    obtain ⟨r, kept, rfl⟩ := List.mem_map.mp listed
    have isEdge := (List.mem_filter.mp kept).2
    simp only [Bool.and_eq_true, decide_eq_true_eq, List.contains_iff_mem] at isEdge
    exact ⟨isEdge.1.2, isEdge.2, isEdge.1.1⟩
  exact ⟨textSet_increasing _, fun e listed => (edge e listed).1, fun e listed => (edge e listed).2.1,
    fun e listed => (edge e listed).2.2⟩

section Chains
variable {edges more : List (String × String)} {a b c x y u v : String}

theorem Linked.symm (link : Linked edges a b) : Linked edges b a := Or.symm link

theorem Linked.mono (sub : edges ⊆ more) (link : Linked edges a b) : Linked more a b :=
  link.imp (sub ·) (sub ·)

theorem Joined.symm (chain : Joined edges a b) : Joined edges b a := by
  induction chain with
  | refl => exact .refl
  | tail _ link ih => exact .head link.symm ih

theorem Joined.trans (left : Joined edges a b) (right : Joined edges b c) : Joined edges a c :=
  Relation.ReflTransGen.trans left right

theorem Joined.mono (sub : edges ⊆ more) (chain : Joined edges a b) : Joined more a b := by
  induction chain with
  | refl => exact .refl
  | tail _ link ih => exact .tail ih (link.mono sub)

theorem joined_nil : Joined [] a b ↔ a = b := by
  constructor
  · intro chain
    induction chain with
    | refl => rfl
    | tail _ link _ => cases link <;> contradiction
  · rintro rfl
    exact .refl

/-- A chain that uses an added edge can be shortened to use it once. -/
theorem joined_cons : Joined ((u, v) :: edges) x y ↔
    Joined edges x y ∨ (Joined edges x u ∧ Joined edges v y) ∨ (Joined edges x v ∧ Joined edges u y) := by
  constructor
  · intro chain
    induction chain with
    | refl => exact .inl .refl
    | @tail z w _ link ih =>
      have old : Linked edges z w ∨ (z = u ∧ w = v) ∨ (z = v ∧ w = u) := by
        simp only [Linked, List.mem_cons, Prod.mk.injEq] at link ⊢
        tauto
      rcases old with old | ⟨rfl, rfl⟩ | ⟨rfl, rfl⟩
      · rcases ih with direct | ⟨before, after⟩ | ⟨before, after⟩
        · exact .inl (direct.tail old)
        · exact .inr (.inl ⟨before, after.tail old⟩)
        · exact .inr (.inr ⟨before, after.tail old⟩)
      · rcases ih with direct | ⟨before, _⟩ | ⟨before, _⟩
        · exact .inr (.inl ⟨direct, .refl⟩)
        · exact .inr (.inl ⟨before, .refl⟩)
        · exact .inl before
      · rcases ih with direct | ⟨before, _⟩ | ⟨before, _⟩
        · exact .inr (.inr ⟨direct, .refl⟩)
        · exact .inl before
        · exact .inr (.inr ⟨before, .refl⟩)
  · have sub : edges ⊆ (u, v) :: edges := List.subset_cons_self _ _
    have added : Joined ((u, v) :: edges) u v := .single (.inl List.mem_cons_self)
    rintro (direct | ⟨before, after⟩ | ⟨before, after⟩)
    · exact direct.mono sub
    · exact ((before.mono sub).trans added).trans (after.mono sub)
    · exact ((before.mono sub).trans added.symm).trans (after.mono sub)

/-- An edge between nodes that are joined already joins no others. -/
theorem joined_cons_of_joined (closes : Joined edges u v) :
    Joined ((u, v) :: edges) x y ↔ Joined edges x y := by
  rw [joined_cons]
  constructor
  · rintro (direct | ⟨before, after⟩ | ⟨before, after⟩)
    · exact direct
    · exact (before.trans closes).trans after
    · exact (before.trans closes.symm).trans after
  · exact .inl

end Chains

/-! ### Neighbours -/

section Neighbours
variable {g : JoinGraph} {a b x : String} {set : List String}

theorem ends_of_neighbour {e : String × String}
    (leads : (if e.1 = a then some e.2 else if e.2 = a then some e.1 else none) = some b) :
    e = (a, b) ∨ e = (b, a) := by
  obtain ⟨p, q⟩ := e
  by_cases here : p = a
  · rw [if_pos here] at leads
    cases leads
    exact .inl (here ▸ rfl)
  · rw [if_neg here] at leads
    by_cases there : q = a
    · rw [if_pos there] at leads
      cases leads
      exact .inr (there ▸ rfl)
    · rw [if_neg there] at leads
      cases leads

theorem mem_neighbours : b ∈ g.neighbours a ↔ Linked g.edges a b := by
  unfold neighbours Linked
  rw [List.mem_filterMap]
  constructor
  · rintro ⟨e, listed, leads⟩
    rcases ends_of_neighbour leads with rfl | rfl
    · exact .inl listed
    · exact .inr listed
  · rintro (listed | listed)
    · exact ⟨_, listed, if_pos rfl⟩
    · refine ⟨_, listed, ?_⟩
      by_cases same : b = a <;> simp [same]

theorem Proper.mem_of_linked (proper : g.Proper) (link : Linked g.edges a b) : b ∈ g.nodes := by
  rcases link with listed | listed
  · exact proper.second _ listed
  · exact proper.first _ listed

theorem Proper.ne_of_linked (proper : g.Proper) (link : Linked g.edges a b) : a ≠ b := by
  rcases link with listed | listed
  · exact proper.apart _ listed
  · exact (proper.apart _ listed).symm

theorem Proper.mem_of_joined (proper : g.Proper) (member : a ∈ g.nodes) (chain : Joined g.edges a b) :
    b ∈ g.nodes := by
  induction chain with
  | refl => exact member
  | tail _ link _ => exact proper.mem_of_linked link

/-- No edge leads out of a set of nodes. -/
def Closed (g : JoinGraph) (set : List String) : Prop := ∀ a ∈ set, ∀ b, Linked g.edges a b → b ∈ set

theorem Closed.mem_of_joined (closed : g.Closed set) (member : a ∈ set) (chain : Joined g.edges a b) :
    b ∈ set := by
  induction chain with
  | refl => exact member
  | tail _ link ih => exact closed _ ih _ link

end Neighbours

/-! ### Searching -/

/-- What holds of a search on its way: the nodes found are those in `done`, whose neighbours have been looked
at, and then those in the queue. The nodes in `before` were seen when it started. -/
structure Search.Underway (g : JoinGraph) (before : List String) (node : String) (done : List String)
    (s : Search) : Prop where
  found : s.found = done ++ s.queue
  start : node ∈ s.found
  once : s.found.Nodup
  seen : ∀ x, x ∈ s.seen ↔ x ∈ before ∨ x ∈ s.found
  apart : ∀ x ∈ s.found, x ∉ before
  joined : ∀ x ∈ s.found, Joined g.edges node x
  finished : ∀ x ∈ done, ∀ y, Linked g.edges x y → y ∈ s.seen

section Searching
variable {g : JoinGraph} {before done queue : List String} {s : Search} {node next x : String} {steps : Nat}

/-- Of the nodes that a search comes to, the unseen ones are found and queued, in the same order. -/
theorem foldl_visit (nodes : List String) (s : Search) : ∃ fresh,
    nodes.foldl Search.visit s = ⟨fresh.reverse ++ s.seen, s.found ++ fresh, s.queue ++ fresh⟩ ∧
      fresh.Nodup ∧ ∀ x, x ∈ fresh ↔ x ∈ nodes ∧ x ∉ s.seen := by
  induction nodes generalizing s with
  | nil => exact ⟨[], by simp⟩
  | cons node nodes ih =>
    rw [List.foldl_cons]
    by_cases known : node ∈ s.seen
    · have skipped : s.visit node = s := by simp [Search.visit, known]
      obtain ⟨fresh, visited, once, mem⟩ := ih s
      refine ⟨fresh, by rw [skipped, visited], once, ?_⟩
      intro x
      rw [mem, List.mem_cons]
      constructor
      · rintro ⟨listed, unseen⟩
        exact ⟨.inr listed, unseen⟩
      · rintro ⟨rfl | listed, unseen⟩
        · exact absurd known unseen
        · exact ⟨listed, unseen⟩
    · have added : s.visit node = ⟨node :: s.seen, s.found ++ [node], s.queue ++ [node]⟩ := by
        simp [Search.visit, known]
      obtain ⟨fresh, visited, once, mem⟩ := ih (s.visit node)
      rw [added] at visited mem
      refine ⟨node :: fresh, ?_, ?_, ?_⟩
      · rw [added, visited]
        simp
      · refine List.nodup_cons.mpr ⟨?_, once⟩
        intro again
        exact ((mem node).mp again).2 List.mem_cons_self
      · intro x
        rw [List.mem_cons, mem, List.mem_cons, List.mem_cons]
        by_cases same : x = node
        · simp [same, known]
        · simp [same]

/-- What a step does: the first node leaves the queue, and its neighbours that have not been seen are found
and queued. -/
theorem step_of_queue (waiting : s.queue = next :: queue) : ∃ fresh,
    s.step g = ⟨fresh.reverse ++ s.seen, s.found ++ fresh, queue ++ fresh⟩ ∧
      fresh.Nodup ∧ ∀ x, x ∈ fresh ↔ Linked g.edges next x ∧ x ∉ s.seen := by
  obtain ⟨fresh, visited, once, mem⟩ := foldl_visit (g.neighbours next) ⟨s.seen, s.found, queue⟩
  refine ⟨fresh, ?_, once, ?_⟩
  · rw [Search.step, waiting]
    exact visited
  · intro x
    rw [mem, mem_neighbours]

theorem step_of_empty (empty : s.queue = []) : s.step g = s := by
  rw [Search.step, empty]

theorem run_of_empty (empty : s.queue = []) : s.run g steps = s := by
  induction steps with
  | zero => rfl
  | succ steps ih => rw [Search.run, step_of_empty empty, ih]

theorem Search.Underway.init (fresh : node ∉ before) :
    Search.Underway g before node [] (Search.start before node) where
  found := rfl
  start := List.mem_singleton_self node
  once := List.nodup_singleton node
  seen := by simp [Search.start, or_comm]
  apart := by simpa [Search.start] using fresh
  joined := by
    intro x found
    cases List.mem_singleton.mp found
    exact .refl
  finished := by simp

theorem Search.Underway.step (underway : Search.Underway g before node done s)
    (waiting : s.queue = next :: queue) : Search.Underway g before node (done ++ [next]) (s.step g) := by
  obtain ⟨fresh, stepped, once, mem⟩ := step_of_queue (g := g) waiting
  have here : next ∈ s.found := by
    rw [underway.found, waiting]
    exact List.mem_append_right _ List.mem_cons_self
  have unseen : ∀ x ∈ fresh, x ∉ before ∧ x ∉ s.found := by
    intro x new
    have notSeen := ((mem x).mp new).2
    rwa [underway.seen, not_or] at notSeen
  rw [stepped]
  constructor
  · simp [underway.found, waiting]
  · exact List.mem_append_left _ underway.start
  · refine List.nodup_append.mpr ⟨underway.once, once, ?_⟩
    rintro x old _ new rfl
    exact (unseen x new).2 old
  · intro x
    simp only [List.mem_append, List.mem_reverse, underway.seen]
    tauto
  · intro x found
    rcases List.mem_append.mp found with old | new
    · exact underway.apart x old
    · exact (unseen x new).1
  · intro x found
    rcases List.mem_append.mp found with old | new
    · exact underway.joined x old
    · exact (underway.joined next here).tail ((mem x).mp new).1
  · intro x looked y link
    by_cases known : y ∈ s.seen
    · exact List.mem_append_right _ known
    · rcases List.mem_append.mp looked with old | new
      · exact absurd (underway.finished x old y link) known
      · cases List.mem_singleton.mp new
        exact List.mem_append_left _ (List.mem_reverse.mpr ((mem y).mpr ⟨link, known⟩))

/-- A search that goes on as long as there may be nodes to find comes to its end. -/
theorem Search.Underway.run (proper : g.Proper) (member : node ∈ g.nodes)
    (underway : Search.Underway g before node done s) (enough : g.nodes.length ≤ done.length + steps) :
    ∃ all, Search.Underway g before node all (s.run g steps) ∧ (s.run g steps).queue = [] := by
  induction steps generalizing s done with
  | zero =>
    have inside : s.found ⊆ g.nodes := fun x found => proper.mem_of_joined member (underway.joined x found)
    have few := (underway.once.subperm inside).length_le
    rw [underway.found, List.length_append] at few
    have none : s.queue.length = 0 := by omega
    exact ⟨done, underway, List.eq_nil_of_length_eq_zero none⟩
  | succ steps ih =>
    rw [Search.run]
    cases waiting : s.queue with
    | nil =>
      rw [step_of_empty waiting, run_of_empty waiting]
      exact ⟨done, underway, waiting⟩
    | cons next queue =>
      refine ih (underway.step waiting) ?_
      rw [List.length_append, List.length_singleton]
      omega

/-- The search from a node that has not been seen is over, and what holds on its way holds of it. -/
theorem search_over (proper : g.Proper) (member : node ∈ g.nodes) (fresh : node ∉ before) :
    ∃ all, Search.Underway g before node all (g.search before node) ∧ (g.search before node).queue = [] :=
  (Search.Underway.init fresh).run proper member (by simp)

/-- A search finds what is joined to the node where it starts, unless an earlier one has stopped halfway. -/
theorem mem_search (proper : g.Proper) (member : node ∈ g.nodes) (fresh : node ∉ before)
    (closed : g.Closed before) : x ∈ (g.search before node).found ↔ Joined g.edges node x := by
  obtain ⟨all, underway, empty⟩ := search_over proper member fresh
  constructor
  · exact underway.joined x
  · intro chain
    have looked : (g.search before node).found = all := by
      rw [underway.found, empty, List.append_nil]
    have whole : g.Closed (g.search before node).found := by
      intro a found b link
      rcases (underway.seen b).mp (underway.finished a (looked ▸ found) b link) with early | found'
      · exact absurd (closed b early a link.symm) (underway.apart a found)
      · exact found'
    exact whole.mem_of_joined underway.start chain

end Searching

/-! ### Components -/

section Components
variable {g : JoinGraph} {node x : String}

open Classical in
/-- The nodes that are joined to a node. -/
noncomputable def component (g : JoinGraph) (node : String) : List String :=
  g.nodes.filter (Joined g.edges node ·)

theorem mem_component (proper : g.Proper) (member : node ∈ g.nodes) :
    x ∈ g.component node ↔ Joined g.edges node x := by
  simp only [component, List.mem_filter, decide_eq_true_eq, and_iff_right_iff_imp]
  exact proper.mem_of_joined member

theorem component_sorted (proper : g.Proper) : (g.component node).Pairwise (· < ·) := proper.sorted.filter _

end Components

/-! ### Leaders -/

/-- No smaller node is joined to this one. -/
def Leads (g : JoinGraph) (x : String) : Prop := ∀ y ∈ g.nodes, y < x → ¬ Joined g.edges y x

open Classical in
/-- The nodes that no smaller one is joined to. -/
noncomputable def leaders (g : JoinGraph) : List String := g.nodes.filter (g.Leads ·)

section Leaders
variable {g : JoinGraph} {x y l m : String} {seen rest : List String}

theorem mem_leaders : x ∈ g.leaders ↔ x ∈ g.nodes ∧ g.Leads x := by
  simp only [leaders, List.mem_filter, decide_eq_true_eq]

/-- Every node is joined to a leader. -/
theorem exists_leader (member : x ∈ g.nodes) : ∃ l ∈ g.leaders, Joined g.edges l x ∧ l ≤ x := by
  classical
  let joined := g.nodes.toFinset.filter fun y => Joined g.edges y x
  have mem_joined : ∀ y, y ∈ joined ↔ y ∈ g.nodes ∧ Joined g.edges y x := by
    intro y
    rw [Finset.mem_filter, List.mem_toFinset]
  have here : x ∈ joined := (mem_joined x).mpr ⟨member, .refl⟩
  obtain ⟨l, listed, least⟩ := joined.exists_min_image id ⟨x, here⟩
  obtain ⟨inside, chain⟩ := (mem_joined l).mp listed
  refine ⟨l, mem_leaders.mpr ⟨inside, ?_⟩, chain, least x here⟩
  intro y other less link
  have smaller := least y ((mem_joined y).mpr ⟨other, link.trans chain⟩)
  exact absurd less (not_lt_of_ge smaller)

/-- Leaders are not joined to each other. -/
theorem leader_unique (first : l ∈ g.leaders) (second : m ∈ g.leaders) (chain : Joined g.edges l m) :
    l = m := by
  obtain ⟨inside, leads⟩ := mem_leaders.mp first
  obtain ⟨insideToo, leadsToo⟩ := mem_leaders.mp second
  rcases lt_trichotomy l m with less | same | more
  · exact absurd chain (leadsToo l inside less)
  · exact same
  · exact absurd chain.symm (leads m insideToo more)

theorem Proper.seen_iff (proper : g.Proper) (nodes : g.nodes = seen ++ x :: rest) (member : y ∈ g.nodes) :
    y ∈ seen ↔ y < x := by
  have sorted := proper.sorted
  rw [nodes] at sorted member
  obtain ⟨_, later, across⟩ := List.pairwise_append.mp sorted
  constructor
  · intro early
    exact across y early x List.mem_cons_self
  · intro less
    rcases List.mem_append.mp member with early | late
    · exact early
    · rcases List.mem_cons.mp late with rfl | after
      · exact absurd less (lt_irrefl y)
      · exact absurd less (lt_asymm (List.rel_of_pairwise_cons later after))

/-- A node leads just if none of those before it is joined to it. -/
theorem leads_iff (proper : g.Proper) (nodes : g.nodes = seen ++ x :: rest) :
    g.Leads x ↔ ∀ y ∈ seen, ¬ Joined g.edges y x := by
  have inside : ∀ y ∈ seen, y ∈ g.nodes := by
    intro y early
    rw [nodes]
    exact List.mem_append_left _ early
  constructor
  · intro leads y early
    exact leads y (inside y early) ((proper.seen_iff nodes (inside y early)).mp early)
  · intro none y member less
    exact none y ((proper.seen_iff nodes member).mpr less)

open Classical in
/-- What has been collected when the nodes of `early` have been gone through: what is joined to them has been
seen, and there is a component for each leader among them. -/
structure Collected (g : JoinGraph) (early : List String) (state : List String × List (List String)) : Prop where
  seen : ∀ x, x ∈ state.1 ↔ ∃ y ∈ early, Joined g.edges y x
  components : state.2 = (early.filter (g.Leads ·)).map g.component

section Collecting
variable {state : List String × List (List String)}

theorem addComponent_seen (known : x ∈ state.1) : g.addComponent state x = state := by
  simp [addComponent, known]

theorem addComponent_unseen (new : x ∉ state.1) : g.addComponent state x =
    ((g.search state.1 x).seen, state.2 ++ [textSet (g.search state.1 x).found]) := by
  simp [addComponent, new]

theorem Collected.closed (collected : Collected g seen state) : g.Closed state.1 := by
  intro a known b link
  obtain ⟨y, early, chain⟩ := (collected.seen a).mp known
  exact (collected.seen b).mpr ⟨y, early, chain.tail link⟩

theorem Collected.leads_iff (collected : Collected g seen state) (proper : g.Proper)
    (nodes : g.nodes = seen ++ x :: rest) : g.Leads x ↔ x ∉ state.1 := by
  rw [JoinGraph.leads_iff proper nodes, collected.seen]
  push Not
  rfl

/-- A node that is joined to an earlier one adds nothing. -/
theorem Collected.skip (collected : Collected g seen state) (known : x ∈ state.1) (follows : ¬ g.Leads x) :
    Collected g (seen ++ [x]) state where
  seen := by
    intro y
    simp only [collected.seen, List.mem_append, List.mem_singleton, or_and_right, exists_or, exists_eq_left]
    refine (or_iff_left_of_imp ?_).symm
    intro chain
    exact (collected.seen y).mp (collected.closed.mem_of_joined known chain)
  components := by simp [collected.components, follows]

/-- Any other node leads its component, and the search from it finds this component. -/
theorem Collected.lead (collected : Collected g seen state) (proper : g.Proper) (member : x ∈ g.nodes)
    (new : x ∉ state.1) (leads : g.Leads x) : Collected g (seen ++ [x])
      ((g.search state.1 x).seen, state.2 ++ [textSet (g.search state.1 x).found]) := by
  obtain ⟨all, underway, _⟩ := search_over proper member new
  have found : ∀ y, y ∈ (g.search state.1 x).found ↔ Joined g.edges x y := fun y =>
    mem_search proper member new collected.closed
  have whole : textSet (g.search state.1 x).found = g.component x := by
    refine eq_of_increasing (textSet_increasing _) (component_sorted proper) ?_
    intro y
    rw [mem_textSet, found, mem_component proper member]
  constructor
  · intro y
    simp only [underway.seen, collected.seen, found, List.mem_append, List.mem_singleton, or_and_right,
      exists_or, exists_eq_left]
  · simp [collected.components, whole, leads]

theorem Collected.add (collected : Collected g seen state) (proper : g.Proper)
    (nodes : g.nodes = seen ++ x :: rest) : Collected g (seen ++ [x]) (g.addComponent state x) := by
  have leads := collected.leads_iff proper nodes
  by_cases known : x ∈ state.1
  · rw [addComponent_seen known]
    exact collected.skip known (mt leads.mp (not_not_intro known))
  · rw [addComponent_unseen known]
    have member : x ∈ g.nodes := by simp [nodes]
    exact collected.lead proper member known (leads.mpr known)

end Collecting

/-- There is a component for each leader, in their order. -/
theorem components_eq (proper : g.Proper) : g.components = g.leaders.map g.component := by
  have run : ∀ rest early state, g.nodes = early ++ rest → Collected g early state →
      Collected g g.nodes (rest.foldl g.addComponent state) := by
    intro rest
    induction rest with
    | nil =>
      intro early state nodes collected
      rwa [nodes, List.append_nil]
    | cons x rest ih =>
      intro early state nodes collected
      refine ih (early ++ [x]) _ ?_ (collected.add proper nodes)
      rw [nodes, List.append_assoc, List.singleton_append]
  have empty : Collected g [] ([], []) := ⟨by simp, rfl⟩
  exact (run g.nodes [] ([], []) rfl empty).components

end Leaders

/-! ### Counting components -/

section Counting
variable {nodes : List String} {edges : List (String × String)} {u v x : String}

theorem Proper.mono {more : List (String × String)} (proper : Proper ⟨nodes, more⟩) (sub : edges ⊆ more) :
    Proper ⟨nodes, edges⟩ where
  sorted := proper.sorted
  first := fun e listed => proper.first e (sub listed)
  second := fun e listed => proper.second e (sub listed)
  apart := fun e listed => proper.apart e (sub listed)

theorem Proper.tail {e : String × String} (proper : Proper ⟨nodes, e :: edges⟩) : Proper ⟨nodes, edges⟩ :=
  proper.mono (List.subset_cons_self _ _)

theorem Proper.nodup {g : JoinGraph} (proper : g.Proper) : g.nodes.Nodup := proper.sorted.imp ne_of_lt

theorem Proper.leaders_nodup {g : JoinGraph} (proper : g.Proper) : g.leaders.Nodup :=
  proper.nodup.filter _

theorem leaders_nil : leaders ⟨nodes, []⟩ = nodes := by
  simp only [leaders, List.filter_eq_self, decide_eq_true_eq]
  intro x _ y _ less chain
  exact absurd (joined_nil.mp chain) (ne_of_lt less)

theorem leaders_congr {more : List (String × String)}
    (same : ∀ x y, Joined more x y ↔ Joined edges x y) : leaders ⟨nodes, more⟩ = leaders ⟨nodes, edges⟩ := by
  have leads : Leads ⟨nodes, more⟩ = Leads ⟨nodes, edges⟩ := by
    funext x
    simp only [Leads, same]
  unfold leaders
  rw [leads]

/-- When an edge joins the nodes that two leaders lead, the smaller one leads them all. -/
theorem mem_leaders_cons {l m : String} (left : l ∈ leaders ⟨nodes, edges⟩) (right : m ∈ leaders ⟨nodes, edges⟩)
    (toLeft : Joined edges l u) (toRight : Joined edges m v) (apart : l ≠ m) :
    x ∈ leaders ⟨nodes, (u, v) :: edges⟩ ↔ x ≠ max l m ∧ x ∈ leaders ⟨nodes, edges⟩ := by
  have added : Joined ((u, v) :: edges) l m := joined_cons.mpr (.inr (.inl ⟨toLeft, toRight.symm⟩))
  obtain ⟨leftInside, leftLeads⟩ := mem_leaders.mp left
  obtain ⟨rightInside, rightLeads⟩ := mem_leaders.mp right
  constructor
  · intro leader
    obtain ⟨inside, leads⟩ := mem_leaders.mp leader
    refine ⟨?_, mem_leaders.mpr ⟨inside, ?_⟩⟩
    · rintro rfl
      rcases lt_or_gt_of_ne apart with less | more
      · rw [max_eq_right less.le] at leads
        exact leads l leftInside less added
      · rw [max_eq_left more.le] at leads
        exact leads m rightInside more added.symm
    · intro y other less chain
      exact leads y other less (joined_cons.mpr (.inl chain))
  · rintro ⟨notLarger, leader⟩
    obtain ⟨inside, leads⟩ := mem_leaders.mp leader
    refine mem_leaders.mpr ⟨inside, ?_⟩
    intro y other less chain
    rcases joined_cons.mp chain with direct | ⟨before, after⟩ | ⟨before, after⟩
    · exact leads y other less direct
    · have same := leader_unique right leader (toRight.trans after)
      subst same
      have smaller : m < l := lt_of_not_ge fun le => notLarger (max_eq_right le).symm
      exact leftLeads y other (less.trans smaller) (before.trans toLeft.symm)
    · have same := leader_unique left leader (toLeft.trans after)
      subst same
      have smaller : l < m := lt_of_not_ge fun le => notLarger (max_eq_left le).symm
      exact rightLeads y other (less.trans smaller) (before.trans toRight.symm)

/-- An edge between nodes that are not joined yet makes one component of two. -/
theorem leaders_cons (proper : Proper ⟨nodes, (u, v) :: edges⟩) (apart : ¬ Joined edges u v) :
    (leaders ⟨nodes, edges⟩).length = (leaders ⟨nodes, (u, v) :: edges⟩).length + 1 := by
  obtain ⟨l, left, toLeft, _⟩ := exists_leader (g := ⟨nodes, edges⟩) (proper.first _ List.mem_cons_self)
  obtain ⟨m, right, toRight, _⟩ := exists_leader (g := ⟨nodes, edges⟩) (proper.second _ List.mem_cons_self)
  have different : l ≠ m := by
    rintro rfl
    exact apart (toLeft.symm.trans toRight)
  have larger : max l m ∈ leaders ⟨nodes, edges⟩ := by
    rcases max_choice l m with same | same
    · rwa [same]
    · rwa [same]
  have distinct := proper.tail.leaders_nodup
  have perm : (leaders ⟨nodes, (u, v) :: edges⟩).Perm ((leaders ⟨nodes, edges⟩).erase (max l m)) := by
    refine (List.perm_ext_iff_of_nodup proper.leaders_nodup (distinct.erase _)).mpr ?_
    intro x
    rw [distinct.mem_erase_iff, mem_leaders_cons left right toLeft toRight different]
  rw [perm.length_eq, List.length_erase_of_mem larger]
  have some := List.length_pos_of_mem larger
  omega

/-- There are never more nodes than edges and components together. -/
theorem nodes_le (proper : Proper ⟨nodes, edges⟩) :
    nodes.length ≤ edges.length + (leaders ⟨nodes, edges⟩).length := by
  induction edges with
  | nil => rw [leaders_nil, List.length_nil, Nat.zero_add]
  | cons e edges ih =>
    obtain ⟨u, v⟩ := e
    have before := ih proper.tail
    rw [List.length_cons]
    by_cases closes : Joined edges u v
    · rw [leaders_congr fun _ _ => joined_cons_of_joined closes]
      omega
    · have merged := leaders_cons proper closes
      omega

end Counting

end SemanticLayer.JoinGraph
