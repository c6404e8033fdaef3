import SemanticLayer.Evaluation.Check
import SemanticLayer.Proofs.Crossings
import SemanticLayer.Proofs.JoinPaths

/-! What the components of a graph of joins are. They part the declared objects into the classes that chains of
relationships make (`components_classes`): a class is what its smallest member is joined to, and this member is
its leader. A search for paths that may go deep enough finds one between any two objects of a class, and no search
ever finds one between classes (`paths_within_components`). The gate that asks for connected objects passes just if
one class holds them all, and otherwise names the classes that are smaller than the largest one. Main statement:
`objects_connected`. -/
namespace SemanticLayer

/-- Two objects are joined by a relationship. -/
def Ontology.Adjacent (o : Ontology) (a b : String) : Prop := ∃ place, o.Crosses place a b

/-- The smallest of some names. -/
def Smallest (names : List String) (x : String) : Prop := x ∈ names ∧ ∀ y ∈ names, x ≤ y

/-- The classes of objects that chains of relationships make: each object is in just one of them, which is in
order, and they are in the order of their smallest members. -/
structure Ontology.Classes (o : Ontology) (classes : List (List String)) : Prop where
  parts : classes.flatten.Perm (textSet o.objectNames)
  nonempty : ∀ c ∈ classes, c ≠ []
  sorted : ∀ c ∈ classes, c.Pairwise (· < ·)
  ordered : classes.Pairwise fun c d => ∀ x y, Smallest c x → Smallest d y → x < y
  joined : ∀ a ∈ o.objectNames, ∀ b ∈ o.objectNames,
    (∃ c ∈ classes, a ∈ c ∧ b ∈ c) ↔ Relation.ReflTransGen o.Adjacent a b

/-- Details list the components that are smaller than another one, in their order. -/
def ListsSmaller (details : Json) (components : List (List String)) : Prop :=
  ∃ listed : List (List String), details.get? "disconnected" = some (.arr (listed.map Json.ofTexts)) ∧
    listed.Sublist components ∧ ∀ c, c ∈ listed ↔ c ∈ components ∧ ∃ d ∈ components, c.length < d.length

namespace JoinGraph

/-! ### Components are classes -/

section Components
variable {g : JoinGraph} {o : Ontology} {c d : List String} {a b l x : String}

theorem joined_iff : Joined (ofOntology o).edges a b ↔ Relation.ReflTransGen o.Adjacent a b := by
  have same : Linked (ofOntology o).edges = o.Adjacent := by
    funext a b
    exact propext linked_iff
  rw [Joined, same]

theorem Proper.mem_components (proper : g.Proper) : c ∈ g.components ↔ ∃ l ∈ g.leaders, g.component l = c := by
  rw [components_eq proper, List.mem_map]

theorem Proper.mem_of_leader (proper : g.Proper) (leader : l ∈ g.leaders) :
    x ∈ g.component l ↔ Joined g.edges l x :=
  mem_component proper (mem_leaders.mp leader).1

/-- A leader is the smallest member of its component. -/
theorem Proper.smallest_iff (proper : g.Proper) (leader : l ∈ g.leaders) :
    Smallest (g.component l) x ↔ x = l := by
  obtain ⟨inside, leads⟩ := mem_leaders.mp leader
  have least : Smallest (g.component l) l := by
    refine ⟨(proper.mem_of_leader leader).mpr .refl, ?_⟩
    intro y found
    have chain := (proper.mem_of_leader leader).mp found
    refine not_lt.mp fun less => ?_
    exact leads y (proper.mem_of_joined inside chain) less chain.symm
  constructor
  · rintro ⟨found, below⟩
    exact le_antisymm (below l least.1) (least.2 x found)
  · rintro rfl
    exact least

theorem Proper.components_nonempty (proper : g.Proper) (listed : c ∈ g.components) : c ≠ [] := by
  obtain ⟨l, leader, rfl⟩ := proper.mem_components.mp listed
  exact List.ne_nil_of_mem ((proper.smallest_iff leader).mpr rfl).1

theorem Proper.components_ordered (proper : g.Proper) :
    g.components.Pairwise fun c d => ∀ x y, Smallest c x → Smallest d y → x < y := by
  have leaders : g.leaders.Pairwise (· < ·) := proper.sorted.filter _
  rw [components_eq proper, List.pairwise_map]
  refine leaders.imp_of_mem ?_
  intro l m left right less x y first second
  rwa [(proper.smallest_iff left).mp first, (proper.smallest_iff right).mp second]

/-- Every node is in one component, and no component has a node of another one. -/
theorem Proper.components_perm (proper : g.Proper) : g.components.flatten.Perm g.nodes := by
  refine (List.perm_ext_iff_of_nodup ?_ proper.nodup).mpr ?_
  · rw [List.nodup_flatten, components_eq proper, List.pairwise_map]
    constructor
    · intro c listed
      obtain ⟨l, _, rfl⟩ := List.mem_map.mp listed
      exact proper.nodup.filter _
    · refine proper.leaders_nodup.imp_of_mem ?_
      intro l m left right apart x first second
      have toLeft := (proper.mem_of_leader left).mp first
      have toRight := (proper.mem_of_leader right).mp second
      exact apart (leader_unique left right (toLeft.trans toRight.symm))
  · intro x
    rw [List.mem_flatten]
    constructor
    · rintro ⟨c, listed, found⟩
      obtain ⟨l, leader, rfl⟩ := proper.mem_components.mp listed
      exact proper.mem_of_joined (mem_leaders.mp leader).1 ((proper.mem_of_leader leader).mp found)
    · intro member
      obtain ⟨l, leader, chain, _⟩ := exists_leader member
      exact ⟨_, proper.mem_components.mpr ⟨l, leader, rfl⟩, (proper.mem_of_leader leader).mpr chain⟩

theorem Proper.same_component_iff (proper : g.Proper) (member : a ∈ g.nodes) :
    (∃ c ∈ g.components, a ∈ c ∧ b ∈ c) ↔ Joined g.edges a b := by
  constructor
  · rintro ⟨c, listed, left, right⟩
    obtain ⟨l, leader, rfl⟩ := proper.mem_components.mp listed
    have toLeft := (proper.mem_of_leader leader).mp left
    exact toLeft.symm.trans ((proper.mem_of_leader leader).mp right)
  · intro chain
    obtain ⟨l, leader, toLeft, _⟩ := exists_leader member
    exact ⟨_, proper.mem_components.mpr ⟨l, leader, rfl⟩, (proper.mem_of_leader leader).mpr toLeft,
      (proper.mem_of_leader leader).mpr (toLeft.trans chain)⟩

theorem components_classes (o : Ontology) : o.Classes (ofOntology o).components where
  parts := (proper_ofOntology o).components_perm
  nonempty := fun _ listed => (proper_ofOntology o).components_nonempty listed
  sorted := by
    intro c listed
    obtain ⟨l, _, rfl⟩ := (proper_ofOntology o).mem_components.mp listed
    exact component_sorted (proper_ofOntology o)
  ordered := (proper_ofOntology o).components_ordered
  joined := by
    intro a member b _
    rw [(proper_ofOntology o).same_component_iff (mem_nodes.mpr member), joined_iff]

end Components

/-! ### Paths within components -/

section Paths
variable {g : JoinGraph} {visited : List String} {node target a b : String} {depth : Nat}

theorem joined_of_walks (counted : g.walks target depth visited node ≠ 0) (ahead : target ∉ visited) :
    Joined g.edges node target := by
  cases depth with
  | zero => exact absurd rfl counted
  | succ depth =>
    rw [walks_succ] at counted
    obtain ⟨_, listed, some⟩ := List.exists_mem_ne_zero_of_sum_ne_zero counted
    obtain ⟨next, neighbour, rfl⟩ := List.mem_map.mp listed
    obtain ⟨_, chain⟩ := joined_of_onward some ahead
    exact .head (mem_neighbours.mp neighbour) (chain.mono fun _ kept => (mem_avoiding.mp kept).1)

/-- What the search for paths comes to is joined to its start, however far it goes. -/
theorem joined_of_countPaths (left : a ∈ g.nodes) (right : b ∈ g.nodes) (apart : a ≠ b)
    (counted : 1 ≤ g.countPaths a b depth) : Joined g.edges a b := by
  rw [countPaths_eq left right apart] at counted
  exact joined_of_walks (Nat.one_le_iff_ne_zero.mp counted) (by simpa using apart.symm)

/-- Between nodes that are joined there is a path that comes to no node twice, and it is short enough to be
found. -/
theorem Proper.countPaths_pos (proper : g.Proper) (left : a ∈ g.nodes) (right : b ∈ g.nodes) (apart : a ≠ b)
    (chain : Joined g.edges a b) (enough : g.nodes.length - 1 ≤ depth) : 1 ≤ g.countPaths a b depth := by
  rw [countPaths_eq left right apart, Nat.one_le_iff_ne_zero]
  apply walks_pos proper (List.nodup_singleton a) (by simpa using left) apart
  · rwa [avoiding_nil]
  · rw [List.length_nil]
    omega

end Paths

/-- The two searches agree: for two objects, a search for paths that may take as many relationships as there are
other objects finds one just if they are in one component; and what a shorter search finds never leads out of a
component. -/
theorem paths_within_components (o : Ontology) {a b : String} (left : a ∈ o.objectNames)
    (right : b ∈ o.objectNames) (apart : a ≠ b) :
    (∀ depth, (ofOntology o).nodes.length - 1 ≤ depth →
      (1 ≤ (ofOntology o).countPaths a b depth ↔ ∃ c ∈ (ofOntology o).components, a ∈ c ∧ b ∈ c)) ∧
    ∀ depth, 1 ≤ (ofOntology o).countPaths a b depth → ∃ c ∈ (ofOntology o).components, a ∈ c ∧ b ∈ c := by
  have proper := proper_ofOntology o
  have inside := mem_nodes.mpr left
  have insideToo := mem_nodes.mpr right
  have together : ∀ depth, 1 ≤ (ofOntology o).countPaths a b depth →
      ∃ c ∈ (ofOntology o).components, a ∈ c ∧ b ∈ c := by
    intro depth counted
    exact (proper.same_component_iff inside).mpr (joined_of_countPaths inside insideToo apart counted)
  refine ⟨fun depth enough => ⟨together depth, fun same => ?_⟩, together⟩
  have chain := (proper.same_component_iff inside).mp same
  exact proper.countPaths_pos inside insideToo apart chain enough

/-- Customers are two relationships away from addresses, so that only the deeper search shows that they belong
together; and without the relationship to addresses no search does. -/
theorem addressed_orders_reached :
    let orders := addressedOrders [("Order", "Customer"), ("Order", "Address")]
    let unaddressed := addressedOrders [("Order", "Customer")]
    "Customer" ∈ orders.objectNames ∧ "Address" ∈ orders.objectNames ∧
    (ofOntology orders).countPaths "Customer" "Address" 1 = 0 ∧
    1 ≤ (ofOntology orders).countPaths "Customer" "Address" 2 ∧
    (∃ c ∈ (ofOntology orders).components, "Customer" ∈ c ∧ "Address" ∈ c) ∧
    ∀ depth, 2 ≤ depth → (ofOntology unaddressed).countPaths "Customer" "Address" depth = 0 := by
  obtain ⟨reached, within⟩ := paths_within_components
    (addressedOrders [("Order", "Customer"), ("Order", "Address")]) (a := "Customer") (b := "Address") (by decide)
    (by decide) (by decide)
  obtain ⟨reachedToo, _⟩ := paths_within_components (addressedOrders [("Order", "Customer")]) (a := "Customer")
    (b := "Address") (by decide) (by decide) (by decide)
  have found := within 2 (by decide)
  refine ⟨by decide, by decide, by decide, (reached 2 (by decide)).mpr found, found, fun depth enough => ?_⟩
  have others : (ofOntology (addressedOrders [("Order", "Customer")])).nodes.length - 1 = 2 := by decide
  have components : (ofOntology (addressedOrders [("Order", "Customer")])).components =
      [["Address"], ["Customer", "Order"]] := by decide
  by_contra counted
  have same := (reachedToo depth (by rwa [others])).mp (Nat.one_le_iff_ne_zero.mpr counted)
  rw [components] at same
  exact absurd same (by decide)

end JoinGraph

/-! ### The gate -/

theorem lt_foldl_max {n least : Nat} {sizes : List Nat} :
    n < sizes.foldl max least ↔ n < least ∨ ∃ size ∈ sizes, n < size := by
  induction sizes generalizing least with
  | nil => simp
  | cons size sizes ih => simp [ih, or_assoc]

section Gate
variable {o : Ontology} {classes : List (List String)}

theorem Ontology.Classes.declared {c : List String} {x : String} (parted : o.Classes classes) (listed : c ∈ classes)
    (member : x ∈ c) : x ∈ o.objectNames :=
  mem_textSet.mp (parted.parts.subset (List.mem_flatten_of_mem listed member))

theorem Ontology.Classes.disjoint (parted : o.Classes classes) : classes.Pairwise List.Disjoint := by
  have distinct : (textSet o.objectNames).Nodup := (textSet_increasing _).imp ne_of_lt
  exact (List.nodup_flatten.mp (parted.parts.nodup_iff.mpr distinct)).2

/-- Where there are objects, there is one class at most just if one holds them all. -/
theorem Ontology.Classes.single_iff (parted : o.Classes classes) (some : o.objects ≠ []) :
    classes.length ≤ 1 ↔ ∃ c ∈ classes, ∀ name ∈ o.objectNames, name ∈ c := by
  constructor
  · intro few
    have held : ∀ name ∈ o.objectNames, ∃ c ∈ classes, name ∈ c := by
      intro name member
      exact List.mem_flatten.mp (parted.parts.symm.subset (mem_textSet.mpr member))
    obtain ⟨x, listed⟩ := List.exists_mem_of_ne_nil _ some
    obtain ⟨c, isClass, _⟩ := held x.name (List.mem_map_of_mem listed)
    have one : classes.length = 1 := le_antisymm few (List.length_pos_of_mem isClass)
    obtain ⟨only, rfl⟩ := List.length_eq_one_iff.mp one
    refine ⟨only, List.mem_singleton_self only, ?_⟩
    simpa using held
  · rintro ⟨c, isClass, whole⟩
    have shares : ∀ d ∈ classes, ¬ d.Disjoint c := by
      intro d isOther apart
      obtain ⟨x, member⟩ := List.exists_mem_of_ne_nil d (parted.nonempty d isOther)
      exact apart member (whole x (parted.declared isOther member))
    obtain ⟨before, after, rfl⟩ := List.append_of_mem isClass
    obtain ⟨_, later, across⟩ := List.pairwise_append.mp parted.disjoint
    have noneBefore : before = [] := by
      refine List.eq_nil_iff_forall_not_mem.mpr fun d early => ?_
      exact shares d (List.mem_append_left _ early) (across d early c List.mem_cons_self)
    have noneAfter : after = [] := by
      refine List.eq_nil_iff_forall_not_mem.mpr fun d late => ?_
      exact shares d (List.mem_append_right _ (List.mem_cons_of_mem c late))
        (List.rel_of_pairwise_cons later late).symm
    simp [noneBefore, noneAfter]

theorem Check.connectedJoinGraph_pass : (Check.connectedJoinGraph o).outcome = .pass ↔
    o.objects = [] ∨ o.relationships ≠ [] ∧
      ∃ c ∈ (JoinGraph.ofOntology o).components, ∀ name ∈ o.objectNames, name ∈ c := by
  unfold Check.connectedJoinGraph
  by_cases none : o.objects = []
  · simp [none]
  · rw [← (JoinGraph.components_classes o).single_iff none]
    by_cases alone : o.relationships = []
    · simp [none, alone]
    · by_cases single : (JoinGraph.ofOntology o).components.length ≤ 1
      · simp [none, alone, single]
      · simp [none, alone, single]

/-- Where the gate fails although there are relationships, it names the smaller components. -/
theorem Check.connectedJoinGraph_details (fails : (Check.connectedJoinGraph o).outcome = .fail)
    (related : o.relationships ≠ []) :
    ListsSmaller (Check.connectedJoinGraph o).details (JoinGraph.ofOntology o).components := by
  by_cases none : o.objects = []
  · simp [Check.connectedJoinGraph, none] at fails
  by_cases single : (JoinGraph.ofOntology o).components.length ≤ 1
  · simp [Check.connectedJoinGraph, none, related, single] at fails
  refine ⟨(JoinGraph.ofOntology o).components.filter fun c =>
    c.length < ((JoinGraph.ofOntology o).components.map List.length).foldl max 0, ?_, List.filter_sublist, ?_⟩
  · simp [Check.connectedJoinGraph, none, related, single, Json.get?, Keyed.get?]
  · intro c
    simp [List.mem_filter, lt_foldl_max]

end Gate

/-- Every search for a component comes to its end; the components are the classes of objects that chains of
relationships make; and the gate for connected objects passes just if there are no objects, or relationships and
one component with all objects, and names the components smaller than the largest where it fails in spite of
relationships. -/
theorem objects_connected (o : Ontology) :
    (∀ node ∈ o.objectNames, ∀ seen, node ∉ seen → ((JoinGraph.ofOntology o).search seen node).queue = []) ∧
    o.Classes (JoinGraph.ofOntology o).components ∧
    ((Check.connectedJoinGraph o).outcome = .pass ↔ o.objects = [] ∨ o.relationships ≠ [] ∧
      ∃ c ∈ (JoinGraph.ofOntology o).components, ∀ name ∈ o.objectNames, name ∈ c) ∧
    ((Check.connectedJoinGraph o).outcome = .fail → o.relationships ≠ [] →
      ListsSmaller (Check.connectedJoinGraph o).details (JoinGraph.ofOntology o).components) := by
  refine ⟨?_, JoinGraph.components_classes o, Check.connectedJoinGraph_pass,
    fun fails related => Check.connectedJoinGraph_details fails related⟩
  intro node member seen fresh
  obtain ⟨_, _, ended⟩ := JoinGraph.search_over (JoinGraph.proper_ofOntology o) (JoinGraph.mem_nodes.mpr member) fresh
  exact ended

/-- Customers and their orders make a component beside the addresses that nothing leads to. -/
theorem unaddressed_orders_connected :
    ((JoinGraph.ofOntology (JoinGraph.addressedOrders [("Order", "Customer")])).search ["Address"] "Customer").queue
      = [] ∧
    Relation.ReflTransGen (JoinGraph.addressedOrders [("Order", "Customer")]).Adjacent "Customer" "Order" ∧
    (Check.connectedJoinGraph (JoinGraph.addressedOrders [("Order", "Customer")])).outcome = .fail ∧
    ListsSmaller (Check.connectedJoinGraph (JoinGraph.addressedOrders [("Order", "Customer")])).details
      [["Address"], ["Customer", "Order"]] := by
  obtain ⟨ends, classes, _, smaller⟩ := objects_connected (JoinGraph.addressedOrders [("Order", "Customer")])
  have components : (JoinGraph.ofOntology (JoinGraph.addressedOrders [("Order", "Customer")])).components =
      [["Address"], ["Customer", "Order"]] := by decide
  rw [components] at classes smaller
  have fails : (Check.connectedJoinGraph (JoinGraph.addressedOrders [("Order", "Customer")])).outcome = .fail := by
    decide
  refine ⟨ends "Customer" (by decide) ["Address"] (by decide), ?_, fails, smaller fails (by decide)⟩
  exact (classes.joined "Customer" (by decide) "Order" (by decide)).mp ⟨["Customer", "Order"], by decide, by decide⟩

end SemanticLayer
