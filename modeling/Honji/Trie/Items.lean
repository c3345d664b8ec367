import Honji.Trie.Basic

/-!
The rules of a trie listed one after another. The list is drawn from a stack of nodes that are still
to be listed, each with the text that leads to it.
-/

namespace Honji
namespace Trie
variable {α : Type}

def waiting (above : Text) : Branches α → List (Text × Entry α × Branches α)
  | .nil => []
  | .cons symbol entry below rest => (above ++ symbol, entry, below) :: waiting above rest

def pending : List (Text × Entry α × Branches α) → Nat
  | [] => 0
  | (_, _, below) :: stack => below.size + 1 + pending stack

theorem pending_waiting (above : Text) (branches : Branches α)
    (stack : List (Text × Entry α × Branches α)) :
    pending (waiting above branches ++ stack) = branches.size + pending stack := by
  induction branches with
  | nil => simp [waiting, Branches.size]
  | cons symbol entry below rest _ ih =>
      simp only [waiting, List.cons_append, pending, ih, Branches.size]
      omega

/-- Lists the node on top of a stack, and puts those it has for children in its place. -/
def drain : List (Text × Entry α × Branches α) → List (Text × α)
  | [] => []
  | (path, entry, below) :: stack => (path, entry.token) :: drain (waiting path below ++ stack)
termination_by stack => pending stack
decreasing_by
  simp only [pending_waiting, pending]
  omega

def items (trie : Trie α) : List (Text × α) :=
  drain (waiting [] trie.root.below)

def size (trie : Trie α) : Nat :=
  trie.items.length

end Trie
end Honji
