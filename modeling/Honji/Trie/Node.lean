import Honji.Trie.Branches

/-!
A node of a trie with everything below it.
-/

namespace Honji

structure Node (α : Type) where
  entry : Entry α
  below : Branches α
  distinct : below.Distinct
  deriving DecidableEq

namespace Node
variable {α β : Type}

def leaf (entry : Entry α) : Node α :=
  ⟨entry, .nil, trivial⟩

def child? (node : Node α) (symbol : Symbol) : Option (Node α) :=
  (node.below.lookup symbol).pmap (fun found distinct => ⟨found.1, found.2, distinct⟩)
    fun _ found => node.distinct.of_lookup found

def find? (node : Node α) (path : Path) : Option (Node α) :=
  path.foldlM child? node

def keys (node : Node α) : List Symbol :=
  node.below.keys

def insert (node : Node α) (blank token : α) (path : Path) : Node α :=
  ⟨node.entry, node.below.insert blank token path, node.distinct.insert blank token path⟩

def plant (node : Node α) (path : Path) (symbol : Symbol) (child : Node α) : Node α :=
  ⟨node.entry, node.below.plant path symbol child.entry child.below,
    node.distinct.plant child.distinct path symbol child.entry⟩

def filterKeys (node : Node α) (keep : Symbol → Bool) : Node α :=
  ⟨node.entry, node.below.filterKeys keep, node.distinct.filterKeys keep⟩

def relabelBelow (node : Node α) (change : Path → Entry α → α) : Node α :=
  ⟨node.entry, node.below.relabel change [], node.distinct.relabel change []⟩

def mapTokens (node : Node α) (change : α → β) : Node β :=
  ⟨⟨change node.entry.token, node.entry.terminal⟩,
    node.below.relabel (fun _ entry => change entry.token) [], node.distinct.relabel _ []⟩

def sight (node : Node α) : Sight α :=
  ⟨node.entry, [], node.below⟩

def merge (resolve : Resolver α) (first second : Node α) : Node α :=
  ⟨⟨resolve first.sight second.sight, first.entry.terminal.either second.entry.terminal⟩,
    first.below.merge resolve second.below, first.distinct.merge second.distinct resolve⟩

def paths (node : Node α) : List Path :=
  [] :: (node.below.walk []).map (·.1)

theorem child?_eq_none_iff {node : Node α} {symbol : Symbol} :
    node.child? symbol = none ↔ symbol ∉ node.keys := by
  simp [child?, keys, Branches.lookup_eq_none_iff]

@[simp] theorem find?_nil (node : Node α) : node.find? [] = some node := rfl

theorem find?_cons (node : Node α) (symbol : Symbol) (path : Path) :
    node.find? (symbol :: path) = (node.child? symbol).bind (·.find? path) := by
  simp only [find?, List.foldlM_cons]
  rfl

theorem find?_append (node : Node α) (first second : Path) :
    node.find? (first ++ second) = (node.find? first).bind (·.find? second) := by
  induction first generalizing node with
  | nil => simp
  | cons symbol path ih =>
      rw [List.cons_append, find?_cons, find?_cons]
      cases node.child? symbol with
      | none => rfl
      | some child => exact ih child

end Node
end Honji
