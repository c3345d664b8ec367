import Honji.Trie.Mapping

/-!
Nodes with an identity of their own. A forest is a store of cells; a cell knows its children and
its parent by their numbers. What a node means is the tree that can be read from it.
-/

namespace Honji

abbrev NodeId := Nat

structure Cell (α : Type) where
  key : Option Symbol
  token : α
  terminal : Choice
  children : List (Symbol × NodeId)
  parent : Option NodeId
  frozen : Bool

structure Forest (α : Type) where
  cells : Array (Cell α)

abbrev ForestM (α : Type) := ExceptT Failure (StateM (Forest α))

namespace Cell
variable {α : Type}

def loose (key : Option Symbol) (entry : Entry α) : Cell α :=
  ⟨key, entry.token, entry.terminal, [], none, false⟩

def entry (cell : Cell α) : Entry α :=
  ⟨cell.token, cell.terminal⟩

def keys (cell : Cell α) : List Symbol :=
  cell.children.map Prod.fst

end Cell

namespace Forest
variable {α : Type}

def empty : Forest α :=
  ⟨#[]⟩

def cell? (forest : Forest α) (node : NodeId) : Option (Cell α) :=
  forest.cells[node]?

def child? (forest : Forest α) (node : NodeId) (symbol : Symbol) : Option NodeId :=
  (forest.cell? node).bind (·.children.lookup symbol)

/--
The symbols above a node, collected on the way up, if it ends within so many steps. One that goes in
a circle ends within no number of them.
-/
def climb? (forest : Forest α) : Nat → NodeId → Path → Option Path
  | 0, _, _ => none
  | steps + 1, node, collected =>
      match forest.cell? node with
      | none => some collected
      | some cell =>
          match cell.key, cell.parent with
          | none, _ => some collected
          | some symbol, none => some (symbol :: collected)
          | some symbol, some parent => forest.climb? steps parent (symbol :: collected)

/--
The symbols that lead from the top to a node, if its way up ends. It passes no node twice then, so
that there are always enough steps.
-/
def path (forest : Forest α) (node : NodeId) : Path :=
  (forest.climb? (forest.cells.size + 1) node []).getD []

def link (symbol : Symbol) (entry : Entry α) (below rest : Branches α) : Branches α :=
  .cons symbol entry below (rest.erase symbol)

def branches (forest : Forest α) : Nat → NodeId → Branches α
  | 0, _ => .nil
  | depth + 1, node =>
      match forest.cell? node with
      | none => .nil
      | some cell => cell.children.foldr (fun child rest =>
          match forest.cell? child.2 with
          | none => rest
          | some found => link child.1 found.entry (forest.branches depth child.2) rest) .nil

theorem distinct_branches (forest : Forest α) (depth : Nat) (node : NodeId) :
    (forest.branches depth node).Distinct := by
  induction depth generalizing node with
  | zero => trivial
  | succ depth ih =>
      rw [branches]
      split
      · trivial
      · next cell _ =>
          induction cell.children with
          | nil => trivial
          | cons head rest restHyp =>
              rw [List.foldr_cons]
              split
              · exact restHyp
              · exact ⟨Branches.not_mem_keys_erase restHyp _, ih _, restHyp.erase _⟩

/-- The tree that is read from a node. No tree is deeper than the forest is large. -/
def tree? (forest : Forest α) (node : NodeId) : Option (Node α) :=
  (forest.cell? node).map fun cell =>
    ⟨cell.entry, forest.branches forest.cells.size node, forest.distinct_branches _ _⟩

def reachable (forest : Forest α) : Nat → NodeId → List NodeId
  | 0, _ => []
  | depth + 1, node =>
      match forest.cell? node with
      | none => []
      | some cell => node :: cell.children.flatMap fun child => forest.reachable depth child.2

def update (node : NodeId) (change : Cell α → Cell α) : ForestM α Unit :=
  modify fun forest => ⟨forest.cells.modify node change⟩

def grow (cell : Cell α) : ForestM α NodeId := do
  let node := (← get).cells.size
  modify fun forest => ⟨forest.cells.push cell⟩
  return node

def checkMutable (node : NodeId) : ForestM α Unit := do
  let forest ← get
  if (forest.cell? node).any (·.frozen) then throw (.frozenNode (forest.path node))

def setToken (node : NodeId) (token : α) : ForestM α Unit := do
  checkMutable node
  update node ({ · with token := token })

def checkFree (parent : NodeId) (symbol : Symbol) : ForestM α Unit := do
  let forest ← get
  if (forest.child? parent symbol).isSome then
    throw (.duplicateKey symbol (forest.path parent))

def enter (parent : NodeId) (symbol : Symbol) (child : NodeId) : ForestM α Unit :=
  update parent fun cell => { cell with children := cell.children ++ [(symbol, child)] }

def attach (parent child : NodeId) : ForestM α Unit := do
  checkMutable parent
  match (← get).cell? child with
  | none => return
  | some cell =>
      match cell.key, cell.parent with
      | none, _ => throw .rootAsChild
      | some symbol, some _ => throw (.secondParent symbol)
      | some symbol, none =>
          checkFree parent symbol
          update child ({ · with parent := some parent })
          enter parent symbol child

def growChild (parent : NodeId) (symbol : Symbol) (entry : Entry α) : ForestM α NodeId := do
  let child ← grow { Cell.loose (some symbol) entry with parent := some parent }
  enter parent symbol child
  return child

def add (parent : NodeId) (symbol : Symbol) (entry : Entry α) : ForestM α NodeId := do
  checkMutable parent
  checkFree parent symbol
  growChild parent symbol entry

/-- Adds a child that may lack a symbol; it would be a root then, which is refused. -/
def addKeyed (parent : NodeId) (key : Option Symbol) (entry : Entry α) : ForestM α NodeId := do
  match key with
  | some symbol => add parent symbol entry
  | none =>
      checkMutable parent
      throw .rootAsChild

def addMany (parent : NodeId) (rules : List (Option Symbol × α)) : ForestM α (List NodeId) :=
  rules.mapM fun (key, token) => addKeyed parent key ⟨token, true⟩

def sow (parent : NodeId) : Branches α → ForestM α Unit
  | .nil => return
  | .cons symbol entry below rest => do
      let child ← growChild parent symbol entry
      sow child below
      sow parent rest

/-- Stores a tree under a node of its own that belongs to no other. -/
def plant (key : Option Symbol) (entry : Entry α) (below : Branches α) : ForestM α NodeId := do
  let node ← grow (.loose key entry)
  sow node below
  return node

def duplicate (node : NodeId) (withChildren : Bool) : ForestM α NodeId := do
  let forest ← get
  match forest.cell? node, forest.tree? node with
  | some cell, some tree =>
      plant cell.key cell.entry (if withChildren then tree.below else .nil)
  | _, _ => return node

def meet (resolve : Resolver α) (node : NodeId) (other : Sight α) : ForestM α Unit := do
  checkMutable node
  let forest ← get
  let below := forest.branches forest.cells.size node
  update node fun cell =>
    { cell with
      token := resolve ⟨cell.entry, [], below⟩ other
      terminal := cell.terminal.either other.terminal }

def mergeBelow (resolve : Resolver α) (target : NodeId) : Branches α → ForestM α Unit
  | .nil => return
  | .cons symbol entry below rest => do
      match (← get).child? target symbol with
      | none => sow (← add target symbol entry) below
      | some child =>
          let inner := resolve.beneath [symbol] [symbol]
          meet inner child ⟨entry, [], below⟩
          mergeBelow inner child below
      mergeBelow resolve target rest

/-- Lays the tree of one node over that of another. The resolver is told the paths of both. -/
def merge (resolve : Resolver α) (target source : NodeId) : ForestM α Unit := do
  let forest ← get
  match forest.tree? source with
  | none => return
  | some tree =>
      let seen := resolve.beneath (forest.path target) (forest.path source)
      meet seen target tree.sight
      mergeBelow seen target tree.below

def freeze (node : NodeId) : ForestM α Unit := do
  let forest ← get
  (forest.reachable forest.cells.size node).forM fun member =>
    update member ({ · with frozen := true })

def childrenOf (forest : Forest α) (node : NodeId) : List NodeId :=
  (forest.cell? node).elim [] (·.children.map Prod.snd)

/-- A node is gone: it stores nothing any more, and what it stored has no parent. -/
def release (forest : Forest α) (node : NodeId) : Forest α :=
  ⟨forest.cells.mapIdx fun other cell =>
    { cell with
      children := if other = node then [] else cell.children
      parent := if other ∈ forest.childrenOf node then none else cell.parent }⟩

/--
Releases the nodes that can no longer be reached from those that are held. It is enough to do so
where one stores a node that can.
-/
def letGo (forest : Forest α) (held : List NodeId) : Forest α :=
  let kept := held.flatMap (forest.reachable forest.cells.size)
  let gone := (List.range forest.cells.size).filter fun node =>
    node ∉ kept && (forest.childrenOf node).any (· ∈ kept)
  gone.foldl release forest

end Forest
end Honji
