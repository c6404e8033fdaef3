import SemanticLayer.LineDiff.Script
/-!
Short edit scripts by divide and conquer, after Myers. A path through the edit graph takes a step
for each line that is dropped or added and slides for free over lines that agree. The furthest
points of paths from both corners are advanced in turn until two of them meet, and the problem is
split there. Diagonals are numbered by the difference of the two coordinates.
-/
namespace SemanticLayer.LineDiff

/-- The length of the common start of two lists. -/
def commonPrefix : List String → List String → Nat
  | x :: xs, y :: ys => if x = y then commonPrefix xs ys + 1 else 0
  | _, _ => 0

/-- The furthest points on the diagonals, as the coordinate in the old lines. -/
structure Frontier where
  offset : Nat
  points : Array Nat

namespace Frontier

/-- A frontier for diagonals up to `radius` on both sides. -/
def start (radius : Nat) : Frontier := ⟨radius + 1, Array.replicate (2 * radius + 3) 0⟩

def get (f : Frontier) (diagonal : Int) : Nat := f.points.getD (f.offset + diagonal).toNat 0

def set (f : Frontier) (diagonal : Int) (x : Nat) : Frontier :=
  { f with points := f.points.setIfInBounds (f.offset + diagonal).toNat x }

/-- Where a path of `steps` steps comes to a diagonal, from the neighbour that is further. -/
def arrive (f : Frontier) (steps diagonal : Int) : Nat :=
  if diagonal = -steps ∨ (diagonal ≠ steps ∧ f.get (diagonal - 1) < f.get (diagonal + 1)) then
    f.get (diagonal + 1)
  else f.get (diagonal - 1) + 1

end Frontier

/-- How far a path slides from a point, within `fuel` lines. -/
def slide (old new : Array String) : Nat → Nat → Int → Nat
  | 0, x, _ => x
  | fuel + 1, x, y =>
    if x < old.size ∧ 0 ≤ y ∧ y.toNat < new.size ∧ old[x]? = new[y.toNat]? then
      slide old new fuel (x + 1) (y + 1)
    else x

/-- The diagonals that paths of a number of steps end on, the highest first. -/
def diagonals (steps : Nat) : List Int :=
  (List.range (steps + 1)).map fun (i : Nat) => (steps : Int) - 2 * (i : Int)

/-- Advances the paths from one corner by a step. `other` holds the furthest points from the
other corner and `reach` the steps that led to them; a path that overlaps one of those has met it.
Gives the point where the path that met one started to slide and where it ended, on its diagonal. -/
def advance (old new : Array String) (other : Frontier) (delta : Int) (reach : Option Nat)
    (steps : Nat) : List Int → Frontier → Frontier × Option (Nat × Nat × Int)
  | [], f => (f, none)
  | k :: rest, f =>
    let x₀ := f.arrive steps k
    let x := slide old new old.size x₀ (x₀ - k)
    let f := f.set k x
    let met := match reach with
      | some reach => (k - delta).natAbs ≤ reach && old.size ≤ x + other.get (-(k - delta))
      | none => false
    if met then (f, some (x₀, x, k)) else advance old new other delta reach steps rest f

/-- Searches for a point to split at, with `fuel` more rounds. The lines are given in both
directions. -/
def searchMiddle (old new oldBack newBack : Array String) :
    Nat → Nat → Frontier → Frontier → Option (Nat × Nat)
  | 0, _, _, _ => none
  | fuel + 1, steps, forward, backward =>
    let delta : Int := (old.size : Int) - (new.size : Int)
    let odd := delta % 2 ≠ 0
    let reach := if odd ∧ 0 < steps then some (steps - 1) else none
    match advance old new backward delta reach steps (diagonals steps) forward with
    | (_, some (x₀, _, k)) => some (x₀, (x₀ - k).toNat)
    | (forward, none) =>
      let reach := if odd then none else some steps
      match advance oldBack newBack forward delta reach steps (diagonals steps) backward with
      | (_, some (_, x, k)) => some (old.size - x, (new.size - (x - k)).toNat)
      | (backward, none) => searchMiddle old new oldBack newBack fuel (steps + 1) forward backward

/-- A point to split two lists at. -/
def middle? (old new : List String) : Option (Nat × Nat) :=
  let rounds := (old.length + new.length + 1) / 2 + 1
  searchMiddle old.toArray new.toArray old.reverse.toArray new.reverse.toArray rounds 0
    (.start rounds) (.start rounds)

/-- A block, unless it has no lines. -/
def unlessNone (block : List String → Block) (lines : List String) : List Block :=
  if lines.isEmpty then [] else [block lines]

/-- A short edit script. Lines at both ends that agree are kept, and what is between them is
split. Both parts are shorter, so the number of lines is enough fuel. -/
def scriptFrom : Nat → List String → List String → List Block
  | 0, old, new => unlessNone .drop old ++ unlessNone .add new
  | fuel + 1, old, new =>
    let start := commonPrefix old new
    let old₁ := old.drop start
    let new₁ := new.drop start
    let back := commonPrefix old₁.reverse new₁.reverse
    let old₂ := old₁.take (old₁.length - back)
    let new₂ := new₁.take (new₁.length - back)
    let inner :=
      if old₂.isEmpty || new₂.isEmpty then unlessNone .drop old₂ ++ unlessNone .add new₂
      else match middle? old₂ new₂ with
        | some (x, y) =>
          scriptFrom fuel (old₂.take x) (new₂.take y) ++ scriptFrom fuel (old₂.drop x) (new₂.drop y)
        | none => [.drop old₂, .add new₂]
    unlessNone .keep (old.take start) ++ inner
      ++ unlessNone .keep (old₁.drop (old₁.length - back))

/-- A short edit script. -/
def shortestScript (old new : List String) : List Block :=
  scriptFrom (old.length + new.length + 1) old new

end SemanticLayer.LineDiff
