import SemanticLayer.Ontology.Basic
/-!
The graph of joins: the objects of an ontology and the relationships between them, in either
direction. Relationships between the same two objects are edges of their own; one from an object to
itself, or to something that is no object, is none.
-/
namespace SemanticLayer

/-- A graph of joins. -/
structure JoinGraph where
  /-- The names of the objects, in increasing order. -/
  nodes : List String
  /-- The two ends of each relationship. -/
  edges : List (String × String)
  deriving Repr

/-- Two objects with more than one path between them. -/
structure AmbiguousPair where
  first : String
  second : String
  pathCount : Nat
  deriving DecidableEq, Repr

namespace JoinGraph

/-- How many edges a path may have. -/
def maxDepth : Nat := 5

/-- The graph of an ontology. -/
def ofOntology (o : Ontology) : JoinGraph :=
  let nodes := textSet o.objectNames
  let isEdge (r : Relationship) : Bool :=
    r.source ≠ r.target && nodes.contains r.source && nodes.contains r.target
  ⟨nodes, (o.relationships.filter isEdge).map fun r => (r.source, r.target)⟩

/-- The other ends of the edges at a node, once for each edge. -/
def neighbours (g : JoinGraph) (node : String) : List String :=
  g.edges.filterMap fun (a, b) => if a = node then some b else if b = node then some a else none

/-- A search for what hangs together with a node: the nodes that have been seen, by earlier searches
too, those that this one has found, and those of them whose neighbours are still to be looked at. -/
structure Search where
  seen : List String
  found : List String
  queue : List String
  deriving DecidableEq, Repr

namespace Search

/-- A search that has found the node where it starts. -/
def start (seen : List String) (node : String) : Search := ⟨node :: seen, [node], [node]⟩

/-- Comes to a node, which is found and waits in the queue unless it has been seen. -/
def visit (s : Search) (node : String) : Search :=
  if s.seen.contains node then s
  else ⟨node :: s.seen, s.found ++ [node], s.queue ++ [node]⟩

/-- Takes the first node from the queue and comes to its neighbours. -/
def step (g : JoinGraph) (s : Search) : Search :=
  match s.queue with
  | [] => s
  | node :: queue => (g.neighbours node).foldl visit ⟨s.seen, s.found, queue⟩

/-- Takes so many steps. -/
def run (g : JoinGraph) : Nat → Search → Search
  | 0, s => s
  | steps + 1, s => run g steps (s.step g)

end Search

/-- The search from a node, with the nodes that have been seen before. No node is queued twice, so
it is over after as many steps as there are nodes. -/
def search (g : JoinGraph) (seen : List String) (node : String) : Search :=
  (Search.start seen node).run g g.nodes.length

/-- Adds the component of a node, unless the node is in one of those that are there. -/
def addComponent (g : JoinGraph) (state : List String × List (List String)) (node : String) :
    List String × List (List String) :=
  if state.1.contains node then state
  else
    let s := g.search state.1 node
    (s.seen, state.2 ++ [textSet s.found])

/-- The components, in the order of their first nodes. -/
def components (g : JoinGraph) : List (List String) := (g.nodes.foldl g.addComponent ([], [])).2

/-- How many paths of at most `depth` edges lead from a node to a target without visiting a node
twice; `visited` are the nodes so far. -/
def walks (g : JoinGraph) (target : String) : Nat → List String → String → Nat
  | 0, _, _ => 0
  | depth + 1, visited, node =>
    ((g.neighbours node).map fun next =>
      if next = target then 1
      else if visited.contains next then 0
      else g.walks target depth (next :: visited) next).foldl (· + ·) 0

/-- How many paths of at most `depth` edges join two nodes. -/
def countPaths (g : JoinGraph) (source target : String) (depth : Nat) : Nat :=
  if source = target || !g.nodes.contains source || !g.nodes.contains target then 0
  else g.walks target depth [source] source

/-- All pairs of different members of a list, in its order. -/
def pairs : List α → List (α × α)
  | [] => []
  | x :: rest => rest.map (fun y => (x, y)) ++ pairs rest

/-- The pairs of nodes with more than one path of at most `depth` edges. -/
def ambiguousPairs (g : JoinGraph) (depth : Nat) : List AmbiguousPair :=
  (pairs g.nodes).filterMap fun (a, b) =>
    let count := g.countPaths a b depth
    if 1 < count then some ⟨a, b, count⟩ else none

end JoinGraph
end SemanticLayer
