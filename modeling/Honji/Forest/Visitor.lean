import Honji.Forest.Basic

/-!
Visitors: what a walk does to the nodes it comes to.
-/

namespace Honji
namespace Visitor
variable {α : Type}

def idle (_ : NodeId) : ForestM α Unit :=
  return

def relabel (change : Path → α → α) (node : NodeId) : ForestM α Unit := do
  let forest ← get
  match forest.cell? node with
  | none => return
  | some cell => Forest.setToken node (change (forest.path node) cell.token)

def extend (symbol : Symbol) (token : α → α) (node : NodeId) : ForestM α Unit := do
  match (← get).cell? node with
  | none => return
  | some cell => discard (Forest.add node symbol ⟨token cell.token, true⟩)

end Visitor
end Honji
