import Honji.Failure
import Honji.Text.Case
import Honji.Trie.Node

/-!
Tries: trees of tokens reached by sequences of symbols. A trie that ignores case stores and looks
up small symbols. A trie can be frozen, after which every change is refused.
-/

namespace Honji

class Token (α : Type) where
  ofText : Text → α

instance : Token Text := ⟨id⟩

instance : Token Datum := ⟨.text⟩

def Token.blank {α : Type} [Token α] : α :=
  Token.ofText []

structure Trie (α : Type) where
  root : Node α
  caseInsensitive : Bool
  placeholder : α
  frozen : Bool
  deriving DecidableEq

namespace Trie
variable {α : Type}

def empty (caseInsensitive : Bool) (placeholder : α) : Trie α :=
  ⟨.leaf ⟨placeholder, false⟩, caseInsensitive, placeholder, false⟩

def normalize (trie : Trie α) (symbol : Symbol) : Symbol :=
  if trie.caseInsensitive then symbol.lower else symbol

def step? (trie : Trie α) (node : Node α) (symbol : Symbol) : Option (Node α) :=
  node.child? (trie.normalize symbol)

def find? (trie : Trie α) (path : Path) : Option (Node α) :=
  path.foldlM trie.step? trie.root

/-- The token at the end of a path, or a default for a path that leads nowhere or is empty. -/
def get (trie : Trie α) (path : Path) (default : α) : α :=
  if path.isEmpty then default
  else match trie.find? path with
    | some node => node.entry.token
    | none => default

def contains (trie : Trie α) (path : Path) : Bool :=
  !path.isEmpty && (trie.find? path).any (·.entry.terminal.taken)

def freeze (trie : Trie α) : Trie α :=
  { trie with frozen := true }

def duplicate (trie : Trie α) : Trie α :=
  { trie with frozen := false }

def insert (trie : Trie α) (path : Path) (token : α) : Except Failure (Trie α) :=
  let path := path.map trie.normalize
  if path.isEmpty then .error .emptyPath
  else if trie.frozen then .error (.frozenNode (trie.root.below.reach path))
  else .ok { trie with root := trie.root.insert trie.placeholder token path }

/--
Hangs a tree under the node at a path, whose symbols are taken as they stand. A path that leads
nowhere takes nothing.
-/
def attach (trie : Trie α) (path : Path) (symbol : Symbol) (child : Node α) :
    Except Failure (Trie α) :=
  if trie.frozen then .error (.frozenNode path)
  else if (trie.root.find? path).any (symbol ∈ ·.keys) then .error (.duplicateKey symbol path)
  else .ok { trie with root := trie.root.plant path symbol child }

def add (trie : Trie α) (path : Path) (symbol : Symbol) (token : α) : Except Failure (Trie α) :=
  trie.attach path symbol (.leaf ⟨token, true⟩)

theorem step?_eq_child? {trie : Trie α} {node : Node α} {symbol : Symbol}
    (normal : trie.normalize symbol = symbol) : trie.step? node symbol = node.child? symbol := by
  rw [step?, normal]

theorem find?_eq_find?_map (trie : Trie α) (path : Path) :
    trie.find? path = trie.root.find? (path.map trie.normalize) := by
  simp only [find?, Node.find?, List.foldlM_map]
  rfl

end Trie
end Honji
