import Honji.Proofs.Trie.Order

/-!
Leaves that were added to a tree one after another, each below a node that the tree had before. They
are all new and all different, and they stand behind the children that were there.
-/

namespace Honji

structure Leaf (α : Type) where
  parent : Path
  symbol : Symbol
  token : α

namespace Leaf
variable {α : Type}

def path (leaf : Leaf α) : Path :=
  leaf.parent ++ [leaf.symbol]

end Leaf

/-- Certain leaves were added to a tree, and nothing else was changed. -/
structure Node.Leafed {α : Type} (leaves : List (Leaf α)) (before after : Node α) : Prop where
  parents : ∀ leaf ∈ leaves, before.entryAt? leaf.parent ≠ none
  fresh : ∀ leaf ∈ leaves, before.entryAt? leaf.path = none
  distinct : (leaves.map Leaf.path).Nodup
  added : ∀ leaf ∈ leaves, after.entryAt? leaf.path = some ⟨leaf.token, some true⟩
  others : ∀ path, path ∉ leaves.map Leaf.path → after.entryAt? path = before.entryAt? path
  order : ∀ path, after.keysAt path =
    before.keysAt path ++ (leaves.filter (·.parent = path)).map Leaf.symbol

namespace Node.Leafed
variable {α : Type} {leaves : List (Leaf α)} {before after : Node α}

theorem refl (node : Node α) : Leafed [] node node :=
  ⟨by simp, by simp, by simp, by simp, fun _ _ => rfl, by simp⟩

theorem entryAt?_ne_none_iff (leafed : Leafed leaves before after) (path : Path) :
    after.entryAt? path ≠ none ↔ before.entryAt? path ≠ none ∨ path ∈ leaves.map Leaf.path := by
  by_cases new : path ∈ leaves.map Leaf.path
  · obtain ⟨leaf, listed, rfl⟩ := List.mem_map.1 new
    simp [leafed.added leaf listed, new]
  · simp [leafed.others path new, new]

theorem kept (leafed : Leafed leaves before after) {path : Path} {entry : Entry α}
    (stands : before.entryAt? path = some entry) : after.entryAt? path = some entry := by
  rw [leafed.others path fun member => ?_, stands]
  obtain ⟨leaf, listed, rfl⟩ := List.mem_map.1 member
  rw [leafed.fresh leaf listed] at stands
  cases stands

theorem new_iff (leafed : Leafed leaves before after) (path : Path) :
    before.entryAt? path = none ∧ after.entryAt? path ≠ none ↔ path ∈ leaves.map Leaf.path := by
  rw [leafed.entryAt?_ne_none_iff]
  constructor
  · rintro ⟨missing, there | listed⟩
    · exact absurd missing there
    · exact listed
  · intro member
    obtain ⟨leaf, listed, rfl⟩ := List.mem_map.1 member
    exact ⟨leafed.fresh leaf listed, .inr member⟩

theorem snoc {trie built : Trie α} {leaf : Leaf α} (leafed : Leafed leaves before trie.root)
    (parent : before.entryAt? leaf.parent ≠ none)
    (added : trie.add leaf.parent leaf.symbol leaf.token = .ok built) :
    Leafed (leaves ++ [leaf]) before built.root := by
  have spec := Trie.add_spec added ((leafed.entryAt?_ne_none_iff _).2 (.inl parent))
  rw [← Leaf.path] at spec
  obtain ⟨free, entries, keys⟩ := spec
  obtain ⟨freshBefore, unlisted⟩ := not_or.1 (mt (leafed.entryAt?_ne_none_iff _).2 (by simpa))
  have fresh := not_not.1 freshBefore
  have apart : ∀ other ∈ leaves, leaf.path ≠ other.path := fun other listed same =>
    unlisted (List.mem_map.2 ⟨other, listed, same.symm⟩)
  refine ⟨List.forall_mem_append.2 ⟨leafed.parents, List.forall_mem_singleton.2 parent⟩,
    List.forall_mem_append.2 ⟨leafed.fresh, List.forall_mem_singleton.2 fresh⟩,
    ?_, List.forall_mem_append.2 ⟨fun other listed => ?_, List.forall_mem_singleton.2 ?_⟩,
    fun path absent => ?_, fun path => ?_⟩
  · rw [List.map_append, List.map_singleton, ← List.concat_eq_append]
    exact leafed.distinct.concat unlisted
  · rw [entries, if_neg (apart other listed)]
    exact leafed.added other listed
  · rw [entries]
    exact if_pos rfl
  · rw [List.map_append, List.mem_append, not_or] at absent
    rw [entries, if_neg fun same => absent.2 (by simp [same]),
      leafed.others path absent.1]
  · rw [keys, leafed.order, List.append_assoc, List.filter_append, List.map_append]
    by_cases here : path = leaf.parent
    · simp [here]
    · simp [here, Ne.symm here]

theorem find?_path (leafed : Leafed leaves before after) {leaf : Leaf α} (listed : leaf ∈ leaves) :
    after.find? leaf.path = some (.leaf ⟨leaf.token, some true⟩) := by
  have fresh := leafed.fresh leaf listed
  refine find?_eq_leaf (leafed.added leaf listed) ?_
  rw [leafed.order, keysAt_of_entryAt?_eq_none fresh, List.nil_append, List.map_eq_nil_iff,
    List.filter_eq_nil_iff]
  intro other also below
  rw [decide_eq_true_eq] at below
  exact leafed.parents other also (below ▸ fresh)

theorem size_eq (leafed : Leafed leaves before after) :
    after.below.size = before.below.size + leaves.length := by
  rw [size_eq_add_length leafed.distinct ?_ ?_ leafed.entryAt?_ne_none_iff, List.length_map]
  · exact List.forall_mem_map.2 fun leaf _ => by simp [Leaf.path]
  · exact List.forall_mem_map.2 leafed.fresh

end Node.Leafed
end Honji
