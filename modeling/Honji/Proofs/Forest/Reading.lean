import Honji.Forest.Trie
import Honji.Proofs.Forest.Growth

/-!
What stored tries read as. A forest that only grows reads as it did.
-/

namespace Honji
namespace RootedTrie
variable {α : Type} {start forest : Forest α} {trie : RootedTrie α} {layout : Layout α}

theorem read_eq {root : Node α} (there : forest.tree? trie.root = some root) :
    trie.read forest =
      ⟨root, trie.caseInsensitive.taken, trie.placeholder, trie.frozen forest⟩ := by
  rw [read, there]

@[simp] theorem caseInsensitive_read (trie : RootedTrie α) (forest : Forest α) :
    (trie.read forest).caseInsensitive = trie.caseInsensitive.taken := by
  unfold read
  split <;> rfl

@[simp] theorem placeholder_read (trie : RootedTrie α) (forest : Forest α) :
    (trie.read forest).placeholder = trie.placeholder := by
  unfold read
  split <;> rfl

theorem tree?_root (stands : forest.Stands trie.root layout) :
    forest.tree? trie.root = some (trie.read forest).root := by
  obtain ⟨cell, there, -⟩ := stands.top
  rw [read_eq (stands.tree?_eq there), stands.tree?_eq there]

theorem read_congr (stands : start.Stands trie.root layout)
    (same : ∀ member ∈ trie.root :: layout.nodes, forest.cell? member = start.cell? member) :
    trie.read forest = trie.read start := by
  obtain ⟨cell, there, -⟩ := stands.top
  have here := (same trie.root List.mem_cons_self).trans there
  rw [read_eq ((stands.congr same).tree?_eq here), read_eq (stands.tree?_eq there), frozen, frozen,
    here, there]

theorem read_keep (stands : start.Stands trie.root layout) (keeps : start.Keeps forest) :
    trie.read forest = trie.read start :=
  read_congr stands fun member inside => by
    obtain ⟨cell, there⟩ := stands.exists_cell inside
    rw [there, keeps member cell there]

theorem read_grow (stands : start.Stands trie.root layout)
    (grows : Forest.Grows [] start forest) : trie.read forest = trie.read start :=
  read_keep stands grows.keeps

end RootedTrie
end Honji
