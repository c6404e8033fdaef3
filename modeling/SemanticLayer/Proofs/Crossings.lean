import SemanticLayer.Proofs.JoinComponents

/-! How the relationships of an ontology make the edges of its graph of joins. A relationship between two
different objects can be crossed from either of them to the other (`Ontology.Crosses`); where relationships
have the same ends or even the same name, they are told apart by their places in the list. The neighbours of a
node are what the crossings from it lead to, in the order of the relationships (`neighbours_eq`). -/
namespace SemanticLayer

/-- The relationship at a place in the list leads from one object to a different one, or back. -/
def Ontology.Crosses (o : Ontology) (place : Nat) (a b : String) : Prop :=
  a ≠ b ∧ a ∈ o.objectNames ∧ b ∈ o.objectNames ∧
    ∃ r, o.relationships[place]? = some r ∧ (r.source = a ∧ r.target = b ∨ r.source = b ∧ r.target = a)

theorem Ontology.Crosses.symm {o : Ontology} {place : Nat} {a b : String} (crosses : o.Crosses place a b) :
    o.Crosses place b a := by
  obtain ⟨apart, left, right, r, found, ends⟩ := crosses
  exact ⟨apart.symm, right, left, r, found, ends.symm⟩

namespace JoinGraph

/-- Whether a relationship is an edge of the graph. -/
def isEdge (o : Ontology) (r : Relationship) : Bool :=
  r.source ≠ r.target && (textSet o.objectNames).contains r.source && (textSet o.objectNames).contains r.target

/-- The other end of a relationship, if it is an edge at a node. -/
def otherEnd? (o : Ontology) (node : String) (r : Relationship) : Option String :=
  if isEdge o r then
    if r.source = node then some r.target else if r.target = node then some r.source else none
  else none

/-- The places of the relationships that can be crossed from a node, each with the object on the other side. -/
def crossings (o : Ontology) (node : String) : List (Nat × String) :=
  o.relationships.zipIdx.filterMap fun (r, place) => (otherEnd? o node r).map (place, ·)

section Crossings
variable {o : Ontology} {place : Nat} {a b node : String} {r : Relationship}

theorem mem_nodes : a ∈ (ofOntology o).nodes ↔ a ∈ o.objectNames := mem_textSet

theorem isEdge_iff : isEdge o r = true ↔
    r.source ≠ r.target ∧ r.source ∈ o.objectNames ∧ r.target ∈ o.objectNames := by
  simp [isEdge, and_assoc]

theorem otherEnd?_eq_some : otherEnd? o a r = some b ↔
    a ≠ b ∧ a ∈ o.objectNames ∧ b ∈ o.objectNames ∧
      (r.source = a ∧ r.target = b ∨ r.source = b ∧ r.target = a) := by
  unfold otherEnd?
  by_cases edge : isEdge o r = true
  · obtain ⟨apart, left, right⟩ := isEdge_iff.mp edge
    rw [if_pos edge]
    by_cases here : r.source = a
    · subst here
      simp only [↓reduceIte, Option.some.injEq, true_and]
      constructor
      · rintro rfl
        exact ⟨apart, left, right, .inl rfl⟩
      · rintro ⟨different, _, _, same | ⟨back, _⟩⟩
        · exact same
        · exact absurd back different
    · rw [if_neg here]
      by_cases there : r.target = a
      · subst there
        simp only [↓reduceIte, Option.some.injEq, and_true]
        constructor
        · rintro rfl
          exact ⟨apart.symm, right, left, .inr rfl⟩
        · rintro ⟨_, _, _, ⟨same, _⟩ | same⟩
          · exact absurd same here
          · exact same
      · simp [here, there]
  · rw [if_neg edge]
    constructor
    · intro none
      cases none
    · rintro ⟨different, left, right, ⟨rfl, rfl⟩ | ⟨rfl, rfl⟩⟩
      · exact absurd (isEdge_iff.mpr ⟨different, left, right⟩) edge
      · exact absurd (isEdge_iff.mpr ⟨different.symm, right, left⟩) edge

theorem mem_crossings : (place, b) ∈ crossings o a ↔ o.Crosses place a b := by
  have entry : (place, b) ∈ crossings o a ↔
      ∃ r, o.relationships[place]? = some r ∧ otherEnd? o a r = some b := by
    simp [crossings, List.mem_zipIdx_iff_getElem?]
  rw [entry]
  simp only [otherEnd?_eq_some, Ontology.Crosses]
  constructor
  · rintro ⟨r, found, apart, left, right, ends⟩
    exact ⟨apart, left, right, r, found, ends⟩
  · rintro ⟨apart, left, right, r, found, ends⟩
    exact ⟨r, found, apart, left, right, ends⟩

theorem crossings_nodup : (crossings o node).Nodup := by
  unfold crossings List.Nodup
  rw [List.pairwise_filterMap]
  have places : o.relationships.zipIdx.Pairwise fun x y => x.2 < y.2 := by
    rw [← List.pairwise_map, List.zipIdx_map_snd]
    exact List.pairwise_lt_range'
  refine places.imp ?_
  rintro ⟨r, i⟩ ⟨s, j⟩ less x first y second same
  obtain ⟨_, _, rfl⟩ := Option.map_eq_some_iff.mp first
  obtain ⟨_, _, rfl⟩ := Option.map_eq_some_iff.mp second
  exact absurd (congrArg Prod.fst same) less.ne

/-- The neighbours of a node are on the other sides of the crossings from it. -/
theorem neighbours_eq : (ofOntology o).neighbours node = (crossings o node).map Prod.snd := by
  have edges : (ofOntology o).edges = (o.relationships.filter (isEdge o)).map fun r => (r.source, r.target) := rfl
  have ends : (crossings o node).map Prod.snd = o.relationships.filterMap (otherEnd? o node) := by
    rw [crossings, List.map_filterMap]
    conv_rhs => rw [← List.zipIdx_map_fst 0 o.relationships, List.filterMap_map]
    congr 1
    funext pair
    simp [Function.comp_def]
  rw [ends, neighbours, edges, List.filterMap_map, List.filterMap_filter]
  rfl

theorem linked_iff : Linked (ofOntology o).edges a b ↔ ∃ place, o.Crosses place a b := by
  rw [← mem_neighbours, neighbours_eq, List.mem_map]
  simp [mem_crossings]

end Crossings

end JoinGraph
end SemanticLayer
