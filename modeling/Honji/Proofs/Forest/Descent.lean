import Honji.Proofs.Forest.Ownership

/-!
What is below a node. In a forest whose nodes are owned, the nodes below one that nobody stores make
a finite tree: a way down never comes back to a node it has passed, since the parent of that node
would be on the way twice.
-/

namespace Honji

theorem Layout.mem_nodes_of_stored {α : Type} (layout : Layout α) :
    ∀ child ∈ layout.links.map Prod.snd, child ∈ layout.nodes := by
  induction layout with
  | nil => simp [links]
  | cons symbol node entry below rest _ ih =>
      refine List.forall_mem_cons.2 ⟨List.mem_cons_self, fun child stored => ?_⟩
      exact List.mem_cons_of_mem _ (List.mem_append_right _ (ih child stored))

namespace Forest
variable {α : Type} {forest : Forest α} {node top parent : Nat} {cell : Cell α}
  {layout : Layout α} {line above : List Nat}

/-- A node of a tree: the one on top, or one that is stored by a node of the tree. -/
inductive Within (forest : Forest α) (top : Nat) : Nat → Prop where
  | top : Within forest top top
  | child {parent child : Nat} {cell : Cell α} (within : Within forest top parent)
      (there : forest.cell? parent = some cell) (stored : child ∈ cell.children.map Prod.snd) :
      Within forest top child

def Unstored (forest : Forest α) (node : Nat) : Prop :=
  ∀ cell ∈ forest.cells, node ∉ cell.children.map Prod.snd

instance (forest : Forest α) (node : Nat) : Decidable (forest.Unstored node) :=
  inferInstanceAs (Decidable (∀ cell ∈ forest.cells, node ∉ cell.children.map Prod.snd))

theorem Unstored.notMem (free : forest.Unstored node) (there : forest.cell? parent = some cell) :
    node ∉ cell.children.map Prod.snd :=
  free cell (Array.mem_of_getElem? there)

theorem Owned.exists_parent (owned : forest.Owned) (there : forest.cell? parent = some cell)
    {child : Nat} (stored : child ∈ cell.children.map Prod.snd) :
    ∃ found, forest.cell? child = some found ∧ found.parent = some parent := by
  obtain ⟨link, member, rfl⟩ := List.mem_map.1 stored
  obtain ⟨found, here, -, up⟩ := owned.linked parent cell there link member
  exact ⟨found, here, up⟩

theorem Owned.unstored (owned : forest.Owned) (there : forest.cell? node = some cell)
    (unnamed : cell.key = none) : forest.Unstored node := by
  intro other member stored
  obtain ⟨parent, known⟩ := Array.mem_iff_getElem?.1 member
  obtain ⟨link, linked, rfl⟩ := List.mem_map.1 stored
  obtain ⟨found, here, key, -⟩ := owned.linked parent other known link linked
  obtain rfl := Option.some.inj (here.symm.trans there)
  cases key.symm.trans unnamed

/-! ### Ways down -/

inductive Line (forest : Forest α) : List Nat → Prop where
  | top {node : Nat} (there : node < forest.cells.size) (free : forest.Unstored node) :
      Line forest [node]
  | down {child parent : Nat} {above : List Nat} {cell : Cell α}
      (line : Line forest (parent :: above)) (there : forest.cell? parent = some cell)
      (stored : child ∈ cell.children.map Prod.snd) : Line forest (child :: parent :: above)

namespace Line

theorem lt_size (owned : forest.Owned) (ends : forest.Line line) :
    ∀ member ∈ line, member < forest.cells.size := by
  induction ends with
  | top there => simpa using there
  | down line there stored ih =>
      obtain ⟨found, here, -⟩ := owned.exists_parent there stored
      exact List.forall_mem_cons.2 ⟨lt_size_of_cell? here, ih⟩

theorem storer_mem (owned : forest.Owned) (ends : forest.Line (node :: above)) {member : Nat}
    (passed : member ∈ node :: above) (there : forest.cell? parent = some cell)
    (stored : member ∈ cell.children.map Prod.snd) : parent ∈ above := by
  generalize same : node :: above = line at ends passed
  induction ends generalizing node above with
  | top _ free =>
      obtain rfl := List.mem_singleton.1 passed
      exact absurd stored (free.notMem there)
  | @down child storer further storerCell line known storedToo ih =>
      obtain ⟨rfl, rfl⟩ := List.cons.inj same
      rcases List.mem_cons.1 passed with rfl | passed
      · obtain ⟨found, here, up⟩ := owned.exists_parent there stored
        obtain ⟨foundToo, hereToo, upToo⟩ := owned.exists_parent known storedToo
        obtain rfl := Option.some.inj (here.symm.trans hereToo)
        obtain rfl := Option.some.inj (up.symm.trans upToo)
        exact List.mem_cons_self
      · exact List.mem_cons_of_mem _ (ih rfl passed)

theorem nodup (owned : forest.Owned) (ends : forest.Line line) : line.Nodup := by
  induction ends with
  | top => simp
  | down line there stored ih =>
      refine List.nodup_cons.2 ⟨fun passed => ?_, ih⟩
      exact (List.nodup_cons.1 ih).1 (line.storer_mem owned passed there stored)

theorem length_le (owned : forest.Owned) (ends : forest.Line line) :
    line.length ≤ forest.cells.size := by
  have few := (List.subperm_of_subset (ends.nodup owned) fun member inside =>
    List.mem_range.2 (ends.lt_size owned member inside)).length_le
  simpa using few

end Line

/-! ### The tree below a node -/

theorem Holds.linked (holds : forest.Holds parent layout) :
    ∀ link ∈ layout.links, ∃ cell, forest.cell? link.2 = some cell ∧ cell.key = some link.1 ∧
      cell.parent = some parent := by
  induction layout with
  | nil => simp [Layout.links]
  | cons symbol node entry below rest _ ih =>
      obtain ⟨⟨frozen, there⟩, -, beside⟩ := holds
      exact List.forall_mem_cons.2 ⟨⟨_, there, rfl, rfl⟩, ih beside⟩

theorem Holds.parent_mem (holds : forest.Holds parent layout) :
    ∀ member ∈ layout.nodes, ∀ cell, forest.cell? member = some cell →
      ∃ up ∈ parent :: layout.nodes, cell.parent = some up := by
  induction layout generalizing parent with
  | nil => simp [Layout.nodes]
  | cons symbol node entry below rest belowHyp restHyp =>
      obtain ⟨⟨frozen, there⟩, under, beside⟩ := holds
      intro member inside cell known
      simp only [Layout.nodes, List.mem_cons, List.mem_append] at inside ⊢
      rcases inside with rfl | inside | inside
      · obtain rfl := Option.some.inj (there.symm.trans known)
        exact ⟨parent, .inl rfl, rfl⟩
      · obtain ⟨up, passed, known⟩ := belowHyp under member inside cell known
        exact ⟨up, by rcases List.mem_cons.1 passed with rfl | passed <;> simp [*], known⟩
      · obtain ⟨up, passed, known⟩ := restHyp beside member inside cell known
        exact ⟨up, by rcases List.mem_cons.1 passed with rfl | passed <;> simp [*], known⟩

theorem Holds.disjoint {part : List Nat} (holds : forest.Holds parent layout)
    (closed : ∀ member ∈ part, ∀ cell, forest.cell? member = some cell →
      ∀ up, cell.parent = some up → up ∈ part ∨ up = top)
    (apart : top ∉ layout.nodes) (heads : ∀ link ∈ layout.links, link.2 ∉ part) :
    ∀ member ∈ layout.nodes, member ∉ part := by
  induction layout generalizing parent with
  | nil => simp [Layout.nodes]
  | cons symbol node entry below rest belowHyp restHyp =>
      obtain ⟨⟨frozen, there⟩, under, beside⟩ := holds
      obtain ⟨head, others⟩ := List.forall_mem_cons.1 heads
      simp only [Layout.nodes, List.mem_cons, List.mem_append, not_or] at apart ⊢
      obtain ⟨notHead, notBelow, notRest⟩ := apart
      rintro member (rfl | inside | inside)
      · exact head
      · refine belowHyp under notBelow (fun link linked member => ?_) _ inside
        obtain ⟨found, here, -, up⟩ := under.linked link linked
        exact (closed link.2 member found here node up).elim head (Ne.symm notHead)
      · exact restHyp beside notRest others _ inside

theorem Owned.exists_layout (owned : forest.Owned) (there : forest.cell? node = some cell)
    (passed : node ∈ line) {links : List (Symbol × NodeId)} (stored : links ⊆ cell.children)
    (distinct : (links.map Prod.fst).Nodup)
    (each : ∀ link ∈ links, ∃ below, forest.Stands link.2 below ∧
      ∀ member ∈ link.2 :: below.nodes, member ∉ line) :
    ∃ layout : Layout α, layout.links = links ∧ forest.Holds node layout ∧ layout.nodes.Nodup ∧
      layout.branches.Distinct ∧ ∀ member ∈ layout.nodes, member ∉ line := by
  induction links with
  | nil => exact ⟨.nil, rfl, trivial, List.nodup_nil, trivial, by simp [Layout.nodes]⟩
  | cons link links ih =>
      obtain ⟨fresh, laterDistinct⟩ := List.nodup_cons.1 distinct
      obtain ⟨here, later⟩ := List.cons_subset.1 stored
      obtain ⟨⟨below, stands, off⟩, laterEach⟩ := List.forall_mem_cons.1 each
      obtain ⟨rest, rfl, beside, restApart, restDistinct, restOff⟩ :=
        ih later laterDistinct laterEach
      obtain ⟨found, known, key, up⟩ := owned.linked node cell there link here
      -- a node that is stored by the same node stands beside this tree, not in it
      have heads : ∀ other ∈ rest.links, other.2 ∉ link.2 :: below.nodes := by
        intro other member inside
        obtain ⟨sibling, knownToo, keyToo, upToo⟩ :=
          owned.linked node cell there other (later member)
        rcases List.mem_cons.1 inside with same | inside
        · obtain rfl := Option.some.inj (known.symm.trans (same ▸ knownToo))
          have named := Option.some.inj (key.symm.trans keyToo)
          exact fresh (named ▸ List.mem_map_of_mem member)
        · obtain ⟨parent, passedToo, storer⟩ := stands.holds.parent_mem _ inside sibling knownToo
          obtain rfl := Option.some.inj (storer.symm.trans upToo)
          exact off parent passedToo passed
      have closed : ∀ member ∈ link.2 :: below.nodes, ∀ other, forest.cell? member = some other →
          ∀ parent, other.parent = some parent → parent ∈ link.2 :: below.nodes ∨ parent = node :=
        fun member inside other knownToo parent upToo => by
          rcases List.mem_cons.1 inside with rfl | inside
          · obtain rfl := Option.some.inj (known.symm.trans knownToo)
            exact .inr (Option.some.inj (upToo.symm.trans up))
          · obtain ⟨storer, passedToo, upOwn⟩ := stands.holds.parent_mem _ inside other knownToo
            exact .inl (Option.some.inj (upOwn.symm.trans upToo) ▸ passedToo)
      have beyond := beside.disjoint closed (fun inside => restOff node inside passed) heads
      obtain ⟨top, knownToo, children⟩ := stands.top
      obtain rfl := Option.some.inj (known.symm.trans knownToo)
      refine ⟨.cons link.1 link.2 found.entry below rest, rfl, ⟨⟨found.frozen, ?_⟩, stands.holds,
        beside⟩, ?_, ⟨?_, stands.distinct, restDistinct⟩, ?_⟩
      · rw [known, ← key, ← children, ← up]
        rfl
      · have apart : ((link.2 :: below.nodes) ++ rest.nodes).Nodup :=
          List.nodup_append.2 ⟨stands.apart, restApart, fun member inside other insideToo same =>
            beyond other insideToo (same ▸ inside)⟩
        exact apart
      · rw [Layout.keys_branches]
        exact fresh
      · intro member inside
        rcases List.mem_append.1 (show member ∈ (link.2 :: below.nodes) ++ rest.nodes from inside)
          with inside | inside
        · exact off member inside
        · exact restOff member inside

theorem Owned.exists_stands_of_line (owned : forest.Owned) (steps : Nat)
    (ends : forest.Line (node :: above)) (few : forest.cells.size < above.length + 1 + steps) :
    ∃ layout : Layout α, forest.Stands node layout ∧
      ∀ member ∈ layout.nodes, member ∉ node :: above := by
  induction steps generalizing node above with
  | zero =>
      have short := ends.length_le owned
      simp only [List.length_cons] at short
      omega
  | succ steps ih =>
      obtain ⟨cell, there⟩ := exists_cell_of_lt (ends.lt_size owned node List.mem_cons_self)
      have each : ∀ link ∈ cell.children, ∃ below, forest.Stands link.2 below ∧
          ∀ member ∈ link.2 :: below.nodes, member ∉ node :: above := by
        intro link member
        have further : forest.Line (link.2 :: node :: above) :=
          ends.down there (List.mem_map_of_mem member)
        obtain ⟨below, stands, off⟩ := ih further (by simp only [List.length_cons]; omega)
        refine ⟨below, stands, List.forall_mem_cons.2
          ⟨(List.nodup_cons.1 (further.nodup owned)).1, fun member inside passed => ?_⟩⟩
        exact off member inside (List.mem_cons_of_mem _ passed)
      obtain ⟨layout, links, holds, apart, distinct, off⟩ :=
        owned.exists_layout there List.mem_cons_self (List.Subset.refl _)
          (owned.distinct node cell there) each
      refine ⟨layout, ⟨⟨cell, there, links.symm⟩, holds, ?_, distinct⟩, off⟩
      exact List.nodup_cons.2 ⟨fun inside => off node inside List.mem_cons_self, apart⟩

theorem Owned.exists_stands (owned : forest.Owned) (there : forest.cell? node = some cell)
    (free : forest.Unstored node) : ∃ layout, forest.Stands node layout := by
  obtain ⟨layout, stands, -⟩ := owned.exists_stands_of_line forest.cells.size
    (.top (lt_size_of_cell? there) free) (by simp)
  exact ⟨layout, stands⟩

/-! ### The nodes of a tree -/

theorem Holds.children_mem (holds : forest.Holds parent layout) :
    ∀ member ∈ layout.nodes, ∀ cell, forest.cell? member = some cell →
      ∀ child ∈ cell.children.map Prod.snd, child ∈ layout.nodes := by
  induction layout generalizing parent with
  | nil => simp [Layout.nodes]
  | cons symbol node entry below rest belowHyp restHyp =>
      obtain ⟨⟨frozen, there⟩, under, beside⟩ := holds
      intro member inside cell known child stored
      simp only [Layout.nodes, List.mem_cons, List.mem_append] at inside ⊢
      rcases inside with rfl | inside | inside
      · obtain rfl := Option.some.inj (there.symm.trans known)
        exact .inr (.inl (below.mem_nodes_of_stored child stored))
      · exact .inr (.inl (belowHyp under member inside cell known child stored))
      · exact .inr (.inr (restHyp beside member inside cell known child stored))

theorem Holds.within (holds : forest.Holds parent layout) (above : forest.Within top parent)
    (there : forest.cell? parent = some cell) (stored : layout.links ⊆ cell.children) :
    ∀ member ∈ layout.nodes, forest.Within top member := by
  induction layout generalizing parent cell with
  | nil => simp [Layout.nodes]
  | cons symbol node entry below rest belowHyp restHyp =>
      obtain ⟨⟨frozen, known⟩, under, beside⟩ := holds
      obtain ⟨here, later⟩ := List.cons_subset.1 stored
      have own : forest.Within top node := above.child there (List.mem_map_of_mem here)
      refine List.forall_mem_cons.2 ⟨own, List.forall_mem_append.2 ⟨?_, ?_⟩⟩
      · exact belowHyp under own known (List.Subset.refl _)
      · exact restHyp beside above there later

theorem Stands.within_iff (stands : forest.Stands top layout) :
    forest.Within top node ↔ node ∈ top :: layout.nodes := by
  obtain ⟨cell, there, children⟩ := stands.top
  constructor
  · intro within
    induction within with
    | top => exact List.mem_cons_self
    | child _ known stored passed =>
        refine List.mem_cons_of_mem _ ?_
        rcases List.mem_cons.1 passed with rfl | passed
        · obtain rfl := Option.some.inj (there.symm.trans known)
          exact layout.mem_nodes_of_stored _ (children ▸ stored)
        · exact stands.holds.children_mem _ passed _ known _ stored
  · intro inside
    rcases List.mem_cons.1 inside with rfl | inside
    · exact .top
    · exact stands.holds.within .top there (children ▸ List.Subset.refl _) node inside

end Forest
end Honji
