import Honji.Forest.Basic
import Honji.Proofs.Trie.Lookup
import Mathlib.Data.List.Nodup
import Mathlib.Data.List.Perm.Subperm

/-!
How a tree lies in a forest: which node holds each part of it. A layout fixes the contents of all
cells it covers, so a change to other cells leaves it as it is, and what is read from the node on
top is the tree of the layout.
-/

namespace Honji

/-- A tree of entries with the number of the node at which each of them is stored. -/
inductive Layout (α : Type) where
  | nil
  | cons (symbol : Symbol) (node : NodeId) (entry : Entry α) (below rest : Layout α)

namespace Layout
variable {α : Type}

def links : Layout α → List (Symbol × NodeId)
  | nil => []
  | cons symbol node _ _ rest => (symbol, node) :: rest.links

def branches : Layout α → Branches α
  | nil => .nil
  | cons symbol _ entry below rest => .cons symbol entry below.branches rest.branches

def nodes : Layout α → List Nat
  | nil => []
  | cons _ node _ below rest => node :: (below.nodes ++ rest.nodes)

def height : Layout α → Nat
  | nil => 0
  | cons _ _ _ below rest => max (below.height + 1) rest.height

def append : Layout α → Layout α → Layout α
  | nil, others => others
  | cons symbol node entry below rest, others =>
      cons symbol node entry below (rest.append others)

variable {first others layout : Layout α}

@[simp] theorem links_append (first others : Layout α) :
    (first.append others).links = first.links ++ others.links := by
  induction first with
  | nil => rfl
  | cons symbol node entry below rest _ ih => simp [append, links, ih]

@[simp] theorem nodes_append (first others : Layout α) :
    (first.append others).nodes = first.nodes ++ others.nodes := by
  induction first with
  | nil => rfl
  | cons symbol node entry below rest _ ih => simp [append, nodes, ih]

@[simp] theorem keys_branches (layout : Layout α) :
    layout.branches.keys = layout.links.map Prod.fst := by
  induction layout with
  | nil => rfl
  | cons symbol node entry below rest _ ih => simp [branches, links, Branches.keys, ih]

theorem notMem_keys_of_lookup {symbol : Symbol} (unknown : layout.links.lookup symbol = none) :
    symbol ∉ layout.branches.keys := by
  rw [keys_branches]
  intro member
  obtain ⟨link, linked, rfl⟩ := List.mem_map.1 member
  simpa using List.lookup_eq_none_iff.1 unknown link linked

theorem height_le (layout : Layout α) : layout.height ≤ layout.nodes.length := by
  induction layout with
  | nil => simp [height]
  | cons symbol node entry below rest belowHyp restHyp =>
      simp only [height, nodes, List.length_cons, List.length_append]
      omega

theorem exists_split {symbol : Symbol} {node : NodeId}
    (known : layout.links.lookup symbol = some node) :
    ∃ (before : Layout α) (entry : Entry α) (below after : Layout α),
      layout = before.append (cons symbol node entry below after) ∧
        symbol ∉ before.links.map Prod.fst := by
  induction layout with
  | nil => simp [links] at known
  | cons head first entry below rest _ ih =>
      rw [links, List.lookup_cons] at known
      by_cases same : symbol = head
      · subst same
        obtain rfl : first = node := by simpa using known
        exact ⟨nil, entry, below, rest, rfl, by simp [links]⟩
      · rw [beq_false_of_ne same] at known
        obtain ⟨before, found, under, after, rfl, fresh⟩ := ih known
        exact ⟨cons head first entry below before, found, under, after, rfl, by
          simp [links, same, fresh]⟩

theorem lookup_branches_append {before below after : Layout α} {symbol : Symbol}
    (fresh : symbol ∉ before.links.map Prod.fst) (node : Nat) (entry : Entry α) :
    (before.append (cons symbol node entry below after)).branches.lookup symbol =
      some (entry, below.branches) := by
  induction before with
  | nil => simp [append, branches, Branches.lookup]
  | cons head child headEntry headBelow rest _ ih =>
      obtain ⟨same, later⟩ : symbol ≠ head ∧ symbol ∉ rest.links.map Prod.fst := by
        simpa [links] using fresh
      simp [append, branches, Branches.lookup, Ne.symm same, ih later]

end Layout

namespace Forest
variable {α : Type}

def Holds (forest : Forest α) (parent : NodeId) : Layout α → Prop
  | .nil => True
  | .cons symbol node entry below rest =>
      (∃ frozen, forest.cell? node =
        some ⟨some symbol, entry.token, entry.terminal, below.links, some parent, frozen⟩) ∧
      forest.Holds node below ∧ forest.Holds parent rest

/-- A finite tree of nodes of its own stands below a node, with distinct symbols for siblings. -/
structure Stands (forest : Forest α) (node : Nat) (layout : Layout α) : Prop where
  top : ∃ cell, forest.cell? node = some cell ∧ cell.children = layout.links
  holds : forest.Holds node layout
  apart : (node :: layout.nodes).Nodup
  distinct : layout.branches.Distinct

variable {forest after : Forest α} {parent node : Nat} {layout others : Layout α}

theorem lt_size_of_cell? {cell : Cell α} (there : forest.cell? node = some cell) :
    node < forest.cells.size :=
  (Array.getElem?_eq_some_iff.1 there).1

theorem cell?_eq_none_iff : forest.cell? node = none ↔ forest.cells.size ≤ node := by
  simp [cell?]

theorem exists_cell_of_lt (inside : node < forest.cells.size) :
    ∃ cell, forest.cell? node = some cell :=
  Option.ne_none_iff_exists'.1 (mt cell?_eq_none_iff.1 (Nat.not_le.2 inside))

namespace Holds

theorem exists_cell (holds : forest.Holds parent layout) :
    ∀ member ∈ layout.nodes, ∃ cell, forest.cell? member = some cell := by
  induction layout generalizing parent with
  | nil => simp [Layout.nodes]
  | cons symbol node entry below rest belowHyp restHyp =>
      obtain ⟨⟨frozen, there⟩, under, beside⟩ := holds
      intro member inside
      rcases List.mem_cons.1 inside with rfl | inside
      · exact ⟨_, there⟩
      · rcases List.mem_append.1 inside with inside | inside
        · exact belowHyp under member inside
        · exact restHyp beside member inside

theorem lt_size (holds : forest.Holds parent layout) :
    ∀ member ∈ layout.nodes, member < forest.cells.size := by
  intro member inside
  obtain ⟨cell, there⟩ := holds.exists_cell member inside
  exact lt_size_of_cell? there

theorem congr (holds : forest.Holds parent layout)
    (same : ∀ member ∈ layout.nodes, after.cell? member = forest.cell? member) :
    after.Holds parent layout := by
  induction layout generalizing parent with
  | nil => trivial
  | cons symbol node entry below rest belowHyp restHyp =>
      obtain ⟨⟨frozen, there⟩, under, beside⟩ := holds
      refine ⟨⟨frozen, (same node (by simp [Layout.nodes])).trans there⟩,
        belowHyp under fun member inside => same member (by simp [Layout.nodes, inside]),
        restHyp beside fun member inside => same member (by simp [Layout.nodes, inside])⟩

theorem append_iff : forest.Holds parent (layout.append others) ↔
    forest.Holds parent layout ∧ forest.Holds parent others := by
  induction layout with
  | nil => simp [Layout.append, Holds]
  | cons symbol node entry below rest _ ih => simp [Layout.append, Holds, ih, and_assoc]

end Holds

/-! ### What is read -/

theorem erase_of_notMem {branches : Branches α} {symbol : Symbol}
    (absent : symbol ∉ branches.keys) : branches.erase symbol = branches := by
  induction branches with
  | nil => rfl
  | cons head entry below rest _ ih =>
      obtain ⟨other, later⟩ : symbol ≠ head ∧ symbol ∉ rest.keys := by
        simpa [Branches.keys] using absent
      rw [Branches.erase, if_neg (Ne.symm other), ih later]

theorem branches_eq {depth : Nat} {cell : Cell α} (there : forest.cell? node = some cell)
    (children : cell.children = layout.links) (holds : forest.Holds node layout)
    (distinct : layout.branches.Distinct) (deep : layout.height ≤ depth) :
    forest.branches depth node = layout.branches := by
  induction depth generalizing node layout cell with
  | zero =>
      cases layout with
      | nil => rfl
      | cons symbol child entry below rest => simp [Layout.height] at deep
  | succ depth ih =>
      rw [branches, there]
      simp only [children]
      clear there children
      -- the siblings are read one after another; each is as deep as the depth that is left
      induction layout with
      | nil => rfl
      | cons symbol child entry below rest _ restHyp =>
          obtain ⟨⟨frozen, found⟩, under, beside⟩ := holds
          obtain ⟨fresh, inner, outer⟩ := distinct
          simp only [Layout.height] at deep
          have belowRead : forest.branches depth child = below.branches :=
            ih found rfl under inner (by omega)
          rw [Layout.links, List.foldr_cons, restHyp beside outer (by omega)]
          simp only [found, belowRead, link, erase_of_notMem fresh]
          rfl

namespace Stands

theorem lt_size (stands : forest.Stands node layout) :
    ∀ member ∈ node :: layout.nodes, member < forest.cells.size := by
  obtain ⟨cell, there, -⟩ := stands.top
  exact List.forall_mem_cons.2 ⟨lt_size_of_cell? there, stands.holds.lt_size⟩

theorem exists_cell (stands : forest.Stands node layout) {member : Nat}
    (inside : member ∈ node :: layout.nodes) : ∃ cell, forest.cell? member = some cell :=
  exists_cell_of_lt (stands.lt_size member inside)

theorem height_lt_size (stands : forest.Stands node layout) :
    layout.height < forest.cells.size := by
  have few := (List.subperm_of_subset stands.apart fun member inside =>
    List.mem_range.2 (stands.lt_size member inside)).length_le
  have height := layout.height_le
  simp only [List.length_cons, List.length_range] at few
  omega

theorem branches_eq (stands : forest.Stands node layout) :
    forest.branches forest.cells.size node = layout.branches := by
  obtain ⟨cell, there, children⟩ := stands.top
  exact Forest.branches_eq there children stands.holds stands.distinct
    (Nat.le_of_lt stands.height_lt_size)

theorem tree?_eq (stands : forest.Stands node layout) {cell : Cell α}
    (there : forest.cell? node = some cell) :
    forest.tree? node = some ⟨cell.entry, layout.branches, stands.distinct⟩ := by
  simp only [tree?, there, Option.map_some, stands.branches_eq]

theorem congr (stands : forest.Stands node layout)
    (same : ∀ member ∈ node :: layout.nodes, after.cell? member = forest.cell? member) :
    after.Stands node layout := by
  obtain ⟨here, below⟩ := List.forall_mem_cons.1 same
  obtain ⟨cell, there, children⟩ := stands.top
  exact ⟨⟨cell, here.trans there, children⟩, stands.holds.congr below, stands.apart,
    stands.distinct⟩

theorem child?_eq (stands : forest.Stands node layout) (symbol : Symbol) :
    forest.child? node symbol = layout.links.lookup symbol := by
  obtain ⟨cell, there, children⟩ := stands.top
  rw [child?, there, ← children]
  rfl

section
variable {symbol : Symbol} {child : Nat} {entry : Entry α} {front below back : Layout α}
  (stands : forest.Stands node (front.append (.cons symbol child entry below back)))
include stands

theorem apart_child :
    ((node :: front.nodes) ++ ((child :: below.nodes) ++ back.nodes)).Nodup := by
  simpa [Layout.nodes] using stands.apart

theorem descend (fresh : symbol ∉ front.links.map Prod.fst) :
    (∃ cell, forest.cell? child = some cell ∧ cell.entry = entry) ∧
      forest.Stands child below := by
  obtain ⟨-, ⟨frozen, there⟩, inner, -⟩ := Holds.append_iff.1 stands.holds
  have apart := (List.nodup_append.1 (List.nodup_append.1 stands.apart_child).2.1).1
  exact ⟨⟨_, there, rfl⟩, ⟨_, there, rfl⟩, inner, apart,
    stands.distinct.of_lookup (Layout.lookup_branches_append fresh _ _)⟩

end

theorem child?_rel (stands : forest.Stands node layout) {tree : Node α}
    (read : forest.tree? node = some tree) (symbol : Symbol) :
    Option.Rel (fun child under => forest.tree? child = some under ∧
      ∃ below, forest.Stands child below) (forest.child? node symbol) (tree.child? symbol) := by
  obtain ⟨cell, there, -⟩ := stands.top
  obtain rfl := Option.some.inj (read.symm.trans (stands.tree?_eq there))
  rw [stands.child?_eq]
  cases known : layout.links.lookup symbol with
  | none =>
      rw [Node.child?_eq_none_iff.2 (Layout.notMem_keys_of_lookup known)]
      exact .none
  | some child =>
      obtain ⟨front, entry, below, back, rfl, fresh⟩ := Layout.exists_split known
      obtain ⟨⟨found, here, rfl⟩, under⟩ := stands.descend fresh
      have reached : Node.child? ⟨cell.entry, _, stands.distinct⟩ symbol =
          some ⟨found.entry, below.branches, under.distinct⟩ :=
        Node.child?_eq_some_iff.2 (Layout.lookup_branches_append fresh _ _)
      rw [reached]
      exact .some ⟨under.tree?_eq here, below, under⟩

end Stands
end Forest
end Honji
