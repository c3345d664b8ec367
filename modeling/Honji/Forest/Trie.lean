import Honji.Forest.Basic

/-!
Tries whose nodes live in a forest: a root together with the manner of looking symbols up.
-/

namespace Honji

structure RootedTrie (α : Type) where
  root : NodeId
  caseInsensitive : Choice
  placeholder : α

namespace RootedTrie
variable {α : Type}

def normalize (trie : RootedTrie α) (symbol : Symbol) : Symbol :=
  if trie.caseInsensitive.taken then symbol.lower else symbol

def create (caseInsensitive : Choice) (placeholder : α) : ForestM α (RootedTrie α) := do
  let root ← Forest.grow (.loose none ⟨placeholder, false⟩)
  return ⟨root, caseInsensitive, placeholder⟩

def frozen (trie : RootedTrie α) (forest : Forest α) : Bool :=
  (forest.cell? trie.root).any (·.frozen)

/-- The trie that is read from a forest; it has a root alone if the root is not there. -/
def read (trie : RootedTrie α) (forest : Forest α) : Trie α :=
  match forest.tree? trie.root with
  | some root => ⟨root, trie.caseInsensitive.taken, trie.placeholder, trie.frozen forest⟩
  | none => .empty trie.caseInsensitive.taken trie.placeholder

def plant (trie : Trie α) (caseInsensitive : Choice) : ForestM α (RootedTrie α) := do
  let root ← Forest.plant none trie.root.entry trie.root.below
  return ⟨root, caseInsensitive, trie.placeholder⟩

def duplicate (trie : RootedTrie α) : ForestM α (RootedTrie α) := do
  let root ← Forest.duplicate trie.root true
  return { trie with root := root }

def child? (trie : RootedTrie α) (forest : Forest α) (node : NodeId) (symbol : Symbol) :
    Option NodeId :=
  forest.child? node (trie.normalize symbol)

def find? (trie : RootedTrie α) (forest : Forest α) (path : Path) : Option NodeId :=
  path.foldlM (trie.child? forest) trie.root

def childOrNew (trie : RootedTrie α) (node : NodeId) (symbol : Symbol) : ForestM α NodeId := do
  match trie.child? (← get) node symbol with
  | some child => return child
  | none => Forest.add node (trie.normalize symbol) ⟨trie.placeholder, false⟩

def insert (trie : RootedTrie α) (path : Path) (token : α) : ForestM α NodeId := do
  if path.isEmpty then throw .emptyPath
  let node ← path.foldlM trie.childOrNew trie.root
  Forest.setToken node token
  Forest.update node ({ · with terminal := true })
  return node

def mergeWith (resolve : Resolver α) (trie other : RootedTrie α) : ForestM α Unit :=
  Forest.merge resolve trie.root other.root

def freeze (trie : RootedTrie α) : ForestM α Unit :=
  Forest.freeze trie.root

end RootedTrie

inductive RuleSource (α : Type) where
  | written (mapping : Mapping α)
  | grown (trie : RootedTrie α)

def RuleSource.mapping {α : Type} (forest : Forest α) : RuleSource α → Mapping α
  | .written mapping => mapping
  | .grown trie => .trie (trie.read forest)

namespace RootedTrie
variable {α : Type} [Token α]

def ofSource (caseInsensitive : Choice) : RuleSource α → ForestM α (RootedTrie α)
  | .grown trie => return trie
  | .written mapping => do
      let rules ← (mapping.toTrie caseInsensitive.taken : Except Failure (Trie α))
      plant rules caseInsensitive

/--
A new trie over which the given ones are laid in turn. It takes its manner of looking symbols up
from the first of them, unless one is named; see `Trie.merged`.
-/
def merged (resolve : Resolver α) (tries : List (RootedTrie α)) (caseInsensitive : Choice) :
    ForestM α (RootedTrie α) := do
  let inherited := (tries.head?.map (·.caseInsensitive)).getD (some false)
  let placeholder := (tries.head?.map (·.placeholder)).getD Token.blank
  let result ← create (caseInsensitive.or inherited) placeholder
  tries.forM (result.mergeWith resolve)
  return result

/-- A new trie with rules laid over a base; without rules it is the base itself. -/
def overlay (resolve : Resolver α) (base : RootedTrie α) :
    Option (RuleSource α) → ForestM α (RootedTrie α)
  | none => return base
  | some source => do
      let rules ← ofSource base.caseInsensitive source
      merged resolve [base, rules] none

end RootedTrie
end Honji
