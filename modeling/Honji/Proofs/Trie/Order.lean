import Honji.Proofs.Trie.Ending
import Honji.Proofs.Trie.Walk
import Honji.Trie.Items
import Mathlib.Data.List.Nodup

/-!
The order of siblings, told path by path: which symbols lead on from the end of a path, and in which
order they were added there. And the number of nodes, which is that of the paths.
-/

namespace Honji
namespace Branches
variable {α : Type}

theorem length_walk (branches : Branches α) (above : Path) :
    (branches.walk above).length = branches.size := by
  induction branches generalizing above with
  | nil => rfl
  | cons symbol entry below rest belowHyp restHyp =>
      simp [walk, size, belowHyp, restHyp]
      omega

theorem keys_plant_nil {siblings : Branches α} {symbol : Symbol} (fresh : symbol ∉ siblings.keys)
    (entry : Entry α) (child : Branches α) :
    (siblings.plant [] symbol entry child).keys = siblings.keys ++ [symbol] := by
  cases siblings <;> simp [plant, add, fresh]

end Branches

namespace Node
variable {α β : Type}

def keysAt (node : Node α) (path : Path) : List Symbol :=
  (node.find? path).elim [] keys

@[simp] theorem keysAt_nil (node : Node α) : node.keysAt [] = node.keys := rfl

theorem keysAt_cons (node : Node α) (symbol : Symbol) (path : Path) :
    node.keysAt (symbol :: path) = (node.child? symbol).elim [] (·.keysAt path) := by
  rw [keysAt, find?_cons]
  cases node.child? symbol <;> rfl

theorem keysAt_of_entryAt?_eq_none {node : Node α} {path : Path}
    (missing : node.entryAt? path = none) : node.keysAt path = [] := by
  rw [keysAt, entryAt?_eq_none_iff.1 missing]
  rfl

@[simp] theorem keysAt_leaf (entry : Entry α) (path : Path) : (leaf entry).keysAt path = [] := by
  cases path with
  | nil => rfl
  | cons symbol path => rw [keysAt_cons, child?_leaf]; rfl

theorem mem_keysAt_iff {node : Node α} {path : Path} {symbol : Symbol} :
    symbol ∈ node.keysAt path ↔ node.entryAt? (path ++ [symbol]) ≠ none := by
  rw [Ne, entryAt?_eq_none_iff, find?_append, keysAt]
  cases node.find? path with
  | none => simp
  | some found =>
      rw [Option.bind_some, find?_cons, Option.elim_some, ← Decidable.not_iff_not,
        ← child?_eq_none_iff]
      cases found.child? symbol <;> simp

theorem keys_mapTokens (node : Node α) (change : α → β) :
    (node.mapTokens change).keys = node.keys :=
  Branches.keys_relabel ..

theorem keysAt_mapTokens (node : Node α) (change : α → β) (path : Path) :
    (node.mapTokens change).keysAt path = node.keysAt path := by
  induction path generalizing node with
  | nil => exact keys_mapTokens node change
  | cons symbol path ih =>
      rw [keysAt_cons, keysAt_cons, child?_mapTokens]
      cases node.child? symbol with
      | none => rfl
      | some child => exact ih child

theorem keysAt_plant {node : Node α} {path : Path} {symbol : Symbol}
    (parent : node.find? path ≠ none) (fresh : node.find? (path ++ [symbol]) = none)
    (child : Node α) (query : Path) :
    (node.plant path symbol child).keysAt query =
      if path ++ [symbol] <+: query then child.keysAt (query.drop (path.length + 1))
      else if query = path then node.keysAt query ++ [symbol]
      else node.keysAt query := by
  induction path generalizing node query with
  | nil =>
      have free : node.child? symbol = none := by simpa [find?_cons] using fresh
      cases query with
      | nil => exact Branches.keys_plant_nil (child?_eq_none_iff.1 free) child.entry child.below
      | cons key query =>
          rw [keysAt_cons, keysAt_cons, child?_plant_nil free]
          by_cases same : symbol = key <;> simp [same]
  | cons step path ih =>
      rw [find?_cons] at parent
      rw [List.cons_append, find?_cons] at fresh
      cases led : node.child? step with
      | none => simp [led] at parent
      | some child =>
          rw [led] at parent fresh
          cases query with
          | nil => exact Branches.keys_plant_cons ..
          | cons key query =>
              rw [keysAt_cons, keysAt_cons, child?_plant_cons]
              by_cases same : step = key
              · subst same
                simpa [led] using ih parent fresh query
              · simp [same, Ne.symm same]

theorem find?_eq_leaf {node : Node α} {path : Path} {entry : Entry α}
    (stands : node.entryAt? path = some entry) (bare : node.keysAt path = []) :
    node.find? path = some (leaf entry) := by
  obtain ⟨found, there, rfl⟩ := Option.map_eq_some_iff.1 stands
  rw [keysAt, there] at bare
  obtain ⟨top, below, distinct⟩ := found
  cases below with
  | nil => exact there
  | cons symbol entry below rest => cases bare

theorem mem_map_walk_iff {node : Node α} {path : Path} :
    path ∈ (node.below.walk []).map Prod.fst ↔ path ≠ [] ∧ node.entryAt? path ≠ none := by
  constructor
  · intro member
    obtain ⟨⟨path, entry⟩, listed, rfl⟩ := List.mem_map.1 member
    obtain ⟨below, stands⟩ := mem_walk_iff.1 listed
    exact ⟨below, by simp [stands]⟩
  · rintro ⟨below, there⟩
    obtain ⟨entry, stands⟩ := Option.ne_none_iff_exists'.1 there
    exact List.mem_map.2 ⟨_, mem_walk_iff.2 ⟨below, stands⟩, rfl⟩

theorem mem_paths_iff {node : Node α} {path : Path} :
    path ∈ node.paths ↔ node.entryAt? path ≠ none := by
  rw [paths, List.mem_cons, mem_map_walk_iff]
  cases path <;> simp

theorem nodup_paths (node : Node α) : node.paths.Nodup :=
  List.nodup_cons.2 ⟨fun member => (mem_map_walk_iff.1 member).1 rfl, nodup_walk node.distinct []⟩

theorem size_eq_add_length {first second : Node α} {added : List Path} (distinct : added.Nodup)
    (filled : ∀ path ∈ added, path ≠ []) (fresh : ∀ path ∈ added, first.entryAt? path = none)
    (all : ∀ path, second.entryAt? path ≠ none ↔ first.entryAt? path ≠ none ∨ path ∈ added) :
    second.below.size = first.below.size + added.length := by
  have same : ((second.below.walk []).map Prod.fst).Perm
      ((first.below.walk []).map Prod.fst ++ added) := by
    refine (List.perm_ext_iff_of_nodup (nodup_walk second.distinct []) ?_).2 fun path => ?_
    · refine List.nodup_append.2 ⟨nodup_walk first.distinct [], distinct, ?_⟩
      rintro path member _ listed rfl
      exact (mem_map_walk_iff.1 member).2 (fresh path listed)
    · rw [List.mem_append, mem_map_walk_iff, mem_map_walk_iff, all]
      exact ⟨fun both => both.2.imp (⟨both.1, ·⟩) id,
        fun either => either.elim (fun both => ⟨both.1, .inl both.2⟩)
          fun listed => ⟨filled path listed, .inr listed⟩⟩
  have lengths := same.length_eq
  rwa [List.length_append, List.length_map, List.length_map, Branches.length_walk,
    Branches.length_walk] at lengths

end Node

namespace Trie
variable {α : Type}

/-- What is on top of a stack is listed as a walk through it comes to it. -/
theorem drain_waiting (above : Path) (branches : Branches α)
    (stack : List (Text × Entry α × Branches α)) :
    drain (waiting above.joined branches ++ stack) =
      ((branches.walk above).map fun (path, entry) => (path.joined, entry.token)) ++
        drain stack := by
  induction branches generalizing above stack with
  | nil => rfl
  | cons symbol entry below rest belowHyp restHyp =>
      have way : (above ++ [symbol]).joined = above.joined ++ symbol := by simp [Path.joined]
      simp only [waiting, Branches.walk, List.cons_append, drain, ← way, belowHyp, restHyp,
        List.map_cons, List.map_append, List.append_assoc]

theorem items_eq (trie : Trie α) :
    trie.items =
      (trie.root.below.walk []).map fun (path, entry) => (path.joined, entry.token) := by
  have listed := drain_waiting [] trie.root.below []
  simpa [drain, Path.joined, items] using listed

theorem size_eq (trie : Trie α) : trie.size = trie.root.below.size := by
  rw [size, items_eq, List.length_map, Branches.length_walk]

theorem fresh_of_attach {trie built : Trie α} {path : Path} {symbol : Symbol} {child : Node α}
    (attached : trie.attach path symbol child = .ok built) :
    trie.root.entryAt? (path ++ [symbol]) = none := by
  obtain ⟨-, free, -⟩ := attach_eq_ok.1 attached
  by_contra taken
  have there := Node.mem_keysAt_iff.2 taken
  rw [Node.keysAt] at there
  cases found : trie.root.find? path <;> simp_all

theorem entryAt?_attach_of_not_prefix {trie built : Trie α} {path query : Path} {symbol : Symbol}
    {child : Node α} (attached : trie.attach path symbol child = .ok built)
    (beside : ¬ path ++ [symbol] <+: query) :
    built.root.entryAt? query = trie.root.entryAt? query :=
  (entryAt?_of_attach attached query).resolve_right fun under => beside under.1

theorem add_spec {trie built : Trie α} {path : Path} {symbol : Symbol} {token : α}
    (added : trie.add path symbol token = .ok built) (parent : trie.root.entryAt? path ≠ none) :
    trie.root.entryAt? (path ++ [symbol]) = none ∧
      (∀ query, built.root.entryAt? query =
        if path ++ [symbol] = query then some ⟨token, some true⟩ else trie.root.entryAt? query) ∧
      ∀ query, built.root.keysAt query =
        trie.root.keysAt query ++ if query = path then [symbol] else [] := by
  have fresh := fresh_of_attach added
  obtain ⟨-, -, rfl⟩ := attach_eq_ok.1 added
  refine ⟨fresh, Node.entryAt?_plant_leaf parent fresh _, fun query => ?_⟩
  rw [Node.keysAt_plant (mt Node.entryAt?_eq_none_iff.2 parent) (Node.entryAt?_eq_none_iff.1 fresh)]
  split
  · next under =>
    obtain ⟨rest, rfl⟩ := under
    have missing : trie.root.entryAt? (path ++ [symbol] ++ rest) = none := by
      rw [Node.entryAt?_eq_none_iff, Node.find?_append, Node.entryAt?_eq_none_iff.1 fresh]
      rfl
    have longer : path ++ [symbol] ++ rest ≠ path := by
      intro same
      simpa using congrArg List.length same
    rw [Node.keysAt_leaf, Node.keysAt_of_entryAt?_eq_none missing, if_neg longer]
    rfl
  · split <;> simp

end Trie
end Honji
