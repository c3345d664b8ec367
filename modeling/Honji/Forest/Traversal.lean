import Honji.Forest.Basic

/-!
Walks through the nodes below a node, with a visitor that may change what it visits.
-/

namespace Honji

inductive VisitOrder where
  | pre
  | post
  deriving DecidableEq

def VisitOrder.parse : Datum → Except Failure VisitOrder
  | .text ['p', 'r', 'e'] => .ok .pre
  | .text ['p', 'o', 's', 't'] => .ok .post
  | other => .error (.unknownOrder other)

structure Visit (α : Type) where
  node : NodeId
  path : Path
  token : α

structure Walk (α : Type) where
  forest : Forest α
  visits : Array (Visit α)

abbrev WalkM (α : Type) := ExceptT Failure (StateM (Walk α))

namespace Walk
variable {α : Type}

def visit (visitor : NodeId → ForestM α Unit) (node : NodeId) : WalkM α Unit := fun walk =>
  let visits := match walk.forest.cell? node with
    | some cell => walk.visits.push ⟨node, walk.forest.path node, cell.token⟩
    | none => walk.visits
  let (outcome, forest) := visitor node walk.forest
  (outcome, ⟨forest, visits⟩)

/--
Visits the nodes below a node down to a depth, and the node itself if it is included. The children
are those that the node has once it was visited itself.
-/
def descend (visitor : NodeId → ForestM α Unit) (order : VisitOrder) :
    Nat → Bool → NodeId → WalkM α Unit
  | 0, included, node => do
      if included then visit visitor node
  | depth + 1, included, node => do
      if included && order = .pre then visit visitor node
      let children := ((← get).forest.cell? node).elim [] (·.children)
      children.forM fun child => descend visitor order depth true child.2
      if included && order = .post then visit visitor node

structure Trail (α : Type) where
  walk : Walk α
  gone : List Path

abbrev TrailM (α : Type) := ExceptT Failure (StateM (Trail α))

def onTrail (steps : WalkM α Unit) : TrailM α Unit := fun trail =>
  let (outcome, walk) := steps trail.walk
  (outcome, { trail with walk := walk })

def once (way : Path) (steps : TrailM α Unit) : TrailM α Unit := do
  unless way ∈ (← get).gone do
    modify fun trail => { trail with gone := way :: trail.gone }
    steps

def descendOnce (visitor : NodeId → ForestM α Unit) (order : VisitOrder) :
    Nat → Bool → Path → NodeId → TrailM α Unit
  | 0, included, way, node => once way do
      if included then onTrail (visit visitor node)
  | depth + 1, included, way, node => once way do
      if included && order = .pre then onTrail (visit visitor node)
      let children := ((← get).walk.forest.cell? node).elim [] (·.children)
      children.forM fun child => descendOnce visitor order depth true (way ++ [child.1]) child.2
      if included && order = .post then onTrail (visit visitor node)

def afresh (steps : TrailM α Unit) : WalkM α Unit := fun walk =>
  let (outcome, trail) := steps ⟨walk, []⟩
  (outcome, trail.walk)

def run (visitor : NodeId → ForestM α Unit) (order : Datum) (depth : Option Int)
    (included : Bool) (node : NodeId) : WalkM α Unit := do
  let order ← (VisitOrder.parse order : Except Failure VisitOrder)
  let size := (← get).forest.cells.size
  afresh (descendOnce visitor order (depth.elim size Int.toNat) included [] node)

end Walk
end Honji
