import Honji.Proofs.Trie.Lookup

/-!
The outline of a tree: its symbols, their order and where rules end, without any tokens. What an
operation does to the outline depends on nothing but the outline.
-/

namespace Honji
namespace Branches
variable {α β : Type}

def outline : Branches α → Branches Unit
  | nil => nil
  | cons symbol entry below rest => cons symbol ⟨(), entry.terminal⟩ below.outline rest.outline

@[simp] theorem keys_outline (branches : Branches α) : branches.outline.keys = branches.keys := by
  induction branches with
  | nil => rfl
  | cons symbol entry below rest _ ih => simp [outline, keys, ih]

theorem Distinct.outline {branches : Branches α} (distinct : branches.Distinct) :
    branches.outline.Distinct := by
  induction branches with
  | nil => trivial
  | cons symbol entry below rest belowHyp restHyp =>
      exact ⟨by simpa using distinct.1, belowHyp distinct.2.1, restHyp distinct.2.2⟩

theorem lookup_outline (branches : Branches α) (symbol : Symbol) :
    branches.outline.lookup symbol =
      (branches.lookup symbol).map fun found => (⟨(), found.1.terminal⟩, found.2.outline) := by
  induction branches with
  | nil => rfl
  | cons head entry below rest _ ih =>
      rw [outline, lookup, lookup, ih]
      split <;> rfl

theorem outline_snoc (siblings below : Branches α) (symbol : Symbol) (entry : Entry α) :
    (siblings.snoc symbol entry below).outline =
      siblings.outline.snoc symbol ⟨(), entry.terminal⟩ below.outline := by
  induction siblings with
  | nil => rfl
  | cons head headEntry headBelow rest _ ih => simp [snoc, outline, ih]

theorem outline_add (siblings below : Branches α) (symbol : Symbol) (entry : Entry α) :
    (siblings.add symbol entry below).outline =
      siblings.outline.add symbol ⟨(), entry.terminal⟩ below.outline := by
  unfold add
  rw [keys_outline]
  split
  · rfl
  · exact outline_snoc ..

theorem outline_erase (branches : Branches α) (symbol : Symbol) :
    (branches.erase symbol).outline = branches.outline.erase symbol := by
  induction branches with
  | nil => rfl
  | cons head entry below rest _ ih =>
      rw [erase, outline, erase]
      split
      · rfl
      · rw [outline, ih]

theorem outline_chain (blank token : α) (path : Path) :
    (chain blank token path).outline = chain () () path := by
  induction path with
  | nil => rfl
  | cons symbol path ih =>
      cases path with
      | nil => rfl
      | cons next path => simp only [chain, outline, ih]

theorem outline_insert (blank token : α) (branches : Branches α) (path : Path) :
    (branches.insert blank token path).outline = branches.outline.insert () () path := by
  induction branches generalizing path with
  | nil => exact outline_chain blank token path
  | cons head entry below rest belowHyp restHyp =>
      match path with
      | [] => rfl
      | [symbol] =>
          rw [insert, outline, insert]
          split
          · rfl
          · rw [outline, restHyp]
      | symbol :: next :: path =>
          rw [insert, outline, insert]
          split
          · rw [outline, belowHyp]
          · rw [outline, restHyp]

theorem outline_plant (branches child : Branches α) (path : Path) (symbol : Symbol)
    (entry : Entry α) :
    (branches.plant path symbol entry child).outline =
      branches.outline.plant path symbol ⟨(), entry.terminal⟩ child.outline := by
  induction branches generalizing path with
  | nil =>
      cases path with
      | nil => exact outline_add ..
      | cons step path => rfl
  | cons head headEntry below rest belowHyp restHyp =>
      cases path with
      | nil => exact outline_add ..
      | cons step path =>
          rw [plant, outline, plant]
          split
          · rw [outline, belowHyp]
          · rw [outline, restHyp]

theorem outline_relabel (change : Path → Entry α → β) (above : Path) (branches : Branches α) :
    (branches.relabel change above).outline = branches.outline := by
  induction branches generalizing above with
  | nil => rfl
  | cons symbol entry below rest belowHyp restHyp =>
      simp only [relabel, outline, belowHyp, restHyp]

theorem outline_merge (resolve : Resolver α) (first second : Branches α) :
    (first.merge resolve second).outline =
      first.outline.merge (fun _ _ => ()) second.outline := by
  induction first generalizing resolve second with
  | nil => rfl
  | cons symbol entry below rest belowHyp restHyp =>
      rw [merge, outline, merge, lookup_outline]
      cases second.lookup symbol with
      | none => simp only [Option.map_none, outline, restHyp]
      | some found => simp only [Option.map_some, outline, belowHyp, restHyp, outline_erase]

theorem map_fst_walk_outline (above : Path) (branches : Branches α) :
    (branches.outline.walk above).map (·.1) = (branches.walk above).map (·.1) := by
  induction branches generalizing above with
  | nil => rfl
  | cons symbol entry below rest belowHyp restHyp =>
      simp [outline, walk, belowHyp, restHyp]

theorem reach_outline (branches : Branches α) (path : Path) :
    branches.outline.reach path = branches.reach path := by
  induction branches generalizing path with
  | nil => rfl
  | cons head entry below rest belowHyp restHyp =>
      cases path with
      | nil => rfl
      | cons symbol path => rw [outline, reach, reach, belowHyp, restHyp]

end Branches

namespace Node
variable {α β : Type}

def outline (node : Node α) : Node Unit :=
  ⟨⟨(), node.entry.terminal⟩, node.below.outline, node.distinct.outline⟩

theorem outline_eq_iff {node : Node α} {other : Node β} : node.outline = other.outline ↔
    node.entry.terminal = other.entry.terminal ∧ node.below.outline = other.below.outline := by
  simp [outline]

@[simp] theorem keys_outline (node : Node α) : node.outline.keys = node.keys :=
  node.below.keys_outline

theorem child?_outline (node : Node α) (symbol : Symbol) :
    node.outline.child? symbol = (node.child? symbol).map outline := by
  have looked := node.below.lookup_outline symbol
  cases led : node.child? symbol with
  | none =>
      rw [child?_eq_none_iff] at led
      exact child?_eq_none_iff.2 (by simpa using led)
  | some child =>
      rw [child?_eq_some_iff.1 led] at looked
      exact child?_eq_some_iff.2 looked

theorem find?_outline (node : Node α) (path : Path) :
    node.outline.find? path = (node.find? path).map outline := by
  induction path generalizing node with
  | nil => rfl
  | cons symbol path ih =>
      rw [find?_cons, find?_cons, child?_outline]
      cases node.child? symbol with
      | none => rfl
      | some child => exact ih child

theorem paths_outline (node : Node α) : node.outline.paths = node.paths := by
  simp [paths, outline, Branches.map_fst_walk_outline]

@[simp] theorem outline_mapTokens (node : Node α) (change : α → β) :
    (node.mapTokens change).outline = node.outline := by
  simp [outline, mapTokens, Branches.outline_relabel]

@[simp] theorem outline_relabelBelow (node : Node α) (change : Path → Entry α → α) :
    (node.relabelBelow change).outline = node.outline := by
  simp [outline, relabelBelow, Branches.outline_relabel]

theorem outline_insert (node : Node α) (blank token : α) (path : Path) :
    (node.insert blank token path).outline = node.outline.insert () () path := by
  simp [outline, insert, Branches.outline_insert]

theorem outline_plant (node child : Node α) (path : Path) (symbol : Symbol) :
    (node.plant path symbol child).outline = node.outline.plant path symbol child.outline := by
  simp [outline, plant, Branches.outline_plant]

theorem outline_merge (resolve : Resolver α) (first second : Node α) :
    (first.merge resolve second).outline = first.outline.merge (fun _ _ => ()) second.outline := by
  simp [outline, merge, Branches.outline_merge]

end Node
end Honji
