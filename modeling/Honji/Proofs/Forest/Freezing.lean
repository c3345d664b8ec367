import Honji.Forest.Grove
import Honji.Proofs.Forest.Overlay
import Honji.Proofs.Forest.Reading

/-!
Freezing a stored tree. It reaches every node of the tree and no other, and nothing but the mark on
the nodes changes.
-/

namespace Honji

def Cell.freeze {α : Type} (cell : Cell α) : Cell α :=
  { cell with frozen := true }

namespace Forest
variable {α : Type} {forest after : Forest α} {node parent : Nat} {layout : Layout α}

/-! ### What is reached -/

theorem reachable_eq {depth : Nat} {cell : Cell α} (there : forest.cell? node = some cell)
    (children : cell.children = layout.links) (holds : forest.Holds node layout)
    (deep : layout.height < depth) : forest.reachable depth node = node :: layout.nodes := by
  induction depth generalizing node layout cell with
  | zero => exact absurd deep (Nat.not_lt_zero _)
  | succ depth ih =>
      have siblings (layout : Layout α) (holds : forest.Holds node layout)
          (deep : layout.height ≤ depth) :
          layout.links.flatMap (fun child => forest.reachable depth child.2) = layout.nodes := by
        induction layout with
        | nil => rfl
        | cons symbol child entry below rest _ restHyp =>
            obtain ⟨⟨frozen, found⟩, under, beside⟩ := holds
            simp only [Layout.height] at deep
            rw [Layout.links, List.flatMap_cons, restHyp beside (by omega),
              ih found rfl under (by omega)]
            rfl
      simp only [reachable, there, children, siblings layout holds (by omega)]

theorem Stands.reachable_eq (stands : forest.Stands node layout) :
    forest.reachable forest.cells.size node = node :: layout.nodes := by
  obtain ⟨cell, there, children⟩ := stands.top
  exact Forest.reachable_eq there children stands.holds stands.height_lt_size

theorem Stands.child_mem (stands : forest.Stands node layout) {symbol : Symbol} {child : NodeId}
    (led : forest.child? node symbol = some child) :
    ∃ below, forest.Stands child below ∧
      ∀ member ∈ child :: below.nodes, member ∈ layout.nodes := by
  rw [stands.child?_eq] at led
  obtain ⟨front, entry, below, back, rfl, fresh⟩ := Layout.exists_split led
  obtain ⟨-, under⟩ := stands.descend fresh
  refine ⟨below, under, fun member inside => ?_⟩
  rw [Layout.nodes_append, Layout.nodes]
  rcases List.mem_cons.1 inside with rfl | inside
  · simp
  · simp [inside]

/-! ### Freezing -/

theorem run_freezeEach (nodes : List Nat) (forest : Forest α) :
    ∃ after, Steps.run (nodes.forM fun member => update member Cell.freeze) forest =
        (.ok (), after) ∧
      ∀ node, after.cell? node =
        if node ∈ nodes then (forest.cell? node).map Cell.freeze else forest.cell? node := by
  induction nodes generalizing forest with
  | nil => exact ⟨forest, rfl, by simp⟩
  | cons member nodes ih =>
      obtain ⟨after, ran, frozen⟩ := ih ⟨forest.cells.modify member Cell.freeze⟩
      refine ⟨after, ?_, fun node => ?_⟩
      · exact (Steps.run_bind_of_ok rfl).trans ran
      · rw [frozen, cell?_modify]
        by_cases same : member = node
        · subst same
          by_cases again : member ∈ nodes
          · cases forest.cell? member <;> simp [again, Cell.freeze]
          · simp [again]
        · simp [same, Ne.symm same]

theorem Stands.run_freeze (stands : forest.Stands node layout) :
    ∃ after, Steps.run (freeze node) forest = (.ok (), after) ∧
      (∀ member ∈ node :: layout.nodes,
        after.cell? member = (forest.cell? member).map Cell.freeze) ∧
      ∀ member ∉ node :: layout.nodes, after.cell? member = forest.cell? member := by
  obtain ⟨after, ran, frozen⟩ := run_freezeEach (node :: layout.nodes) forest
  refine ⟨after, ?_, fun member inside => ?_, fun member outside => ?_⟩
  · rw [freeze, Steps.run_bind_of_ok (Steps.run_get forest), stands.reachable_eq]
    exact ran
  · rw [frozen, if_pos inside]
  · rw [frozen, if_neg outside]

theorem Holds.freeze (holds : forest.Holds parent layout)
    (frozen : ∀ member ∈ layout.nodes,
      after.cell? member = (forest.cell? member).map Cell.freeze) :
    after.Holds parent layout := by
  induction layout generalizing parent with
  | nil => trivial
  | cons symbol node entry below rest belowHyp restHyp =>
      obtain ⟨⟨before, there⟩, under, beside⟩ := holds
      refine ⟨⟨true, ?_⟩, belowHyp under fun member inside => frozen member ?_,
        restHyp beside fun member inside => frozen member ?_⟩
      · rw [frozen node (by simp [Layout.nodes]), there]
        rfl
      · simp [Layout.nodes, inside]
      · simp [Layout.nodes, inside]

theorem Stands.freeze (stands : forest.Stands node layout)
    (frozen : ∀ member ∈ node :: layout.nodes,
      after.cell? member = (forest.cell? member).map Cell.freeze) :
    after.Stands node layout := by
  obtain ⟨here, below⟩ := List.forall_mem_cons.1 frozen
  obtain ⟨cell, there, children⟩ := stands.top
  exact ⟨⟨cell.freeze, by rw [here, there]; rfl, children⟩, stands.holds.freeze below, stands.apart,
    stands.distinct⟩

end Forest

namespace RootedTrie
variable {α : Type} {forest : Forest α} {trie : RootedTrie α} {layout : Layout α}

theorem find?_mem (stands : forest.Stands trie.root layout) {path : Path} {found : NodeId}
    (reached : trie.find? forest path = some found) : found ∈ trie.root :: layout.nodes := by
  have walk (path : Path) (node : NodeId) (layout : Layout α) (stands : forest.Stands node layout)
      (reached : path.foldlM (trie.child? forest) node = some found) :
      found ∈ node :: layout.nodes := by
    induction path generalizing node layout with
    | nil =>
        cases reached
        simp
    | cons symbol path ih =>
        rw [List.foldlM_cons] at reached
        obtain ⟨child, led, reached⟩ := Option.bind_eq_some_iff.1 reached
        obtain ⟨below, under, inside⟩ := stands.child_mem led
        exact List.mem_cons_of_mem _ (inside found (ih child below under reached))
  exact walk path trie.root layout stands reached

theorem read_freeze {after : Forest α} (stands : forest.Stands trie.root layout)
    (frozen : ∀ member ∈ trie.root :: layout.nodes,
      after.cell? member = (forest.cell? member).map Cell.freeze) :
    trie.read after = (trie.read forest).freeze := by
  obtain ⟨cell, there, -⟩ := stands.top
  have here : after.cell? trie.root = some cell.freeze := by
    rw [frozen trie.root (by simp), there]
    rfl
  rw [read_eq ((stands.freeze frozen).tree?_eq here), read_eq (stands.tree?_eq there),
    RootedTrie.frozen, here]
  rfl

end RootedTrie

namespace Grove

theorem run_plantPublished (trie : Trie Text) (forest : Forest Datum) :
    ∃ planted after, Steps.run (plantPublished trie) forest = (.ok planted, after) ∧
      planted.read after = stored trie ∧
      ∀ path node, planted.find? after path = some node →
        ∃ cell, after.cell? node = some cell ∧ cell.frozen = trie.frozen := by
  obtain ⟨between, ran, gained⟩ := Forest.run_plant none (stored trie).root forest
  let planted : RootedTrie Datum :=
    ⟨forest.cells.size, some trie.caseInsensitive, (stored trie).placeholder⟩
  obtain ⟨layout, stands, new⟩ := gained.stands
  have rooted : Steps.run (RootedTrie.plant (stored trie) trie.caseInsensitive) forest =
      (.ok planted, between) := Steps.run_bind_of_ok ran
  have loose (node : Nat) (inside : node ∈ planted.root :: layout.nodes) :
      ∃ cell, between.cell? node = some cell ∧ cell.frozen = false := by
    obtain ⟨cell, there⟩ := stands.exists_cell inside
    exact ⟨cell, there, gained.grows.changeable node cell (new node inside) there⟩
  have plain : planted.read between = { stored trie with frozen := false } := by
    obtain ⟨cell, there, changeable⟩ := loose planted.root List.mem_cons_self
    rw [RootedTrie.read_eq gained.read, RootedTrie.frozen, there, Option.any_some, changeable]
    rfl
  rw [plantPublished, Steps.run_bind_of_ok rooted]
  cases marked : trie.frozen with
  | false =>
      refine ⟨planted, between, rfl, ?_, fun path node reached =>
        loose node (RootedTrie.find?_mem stands reached)⟩
      rw [plain, stored, marked]
  | true =>
      obtain ⟨after, froze, frozen, -⟩ := stands.run_freeze
      refine ⟨planted, after, Steps.run_bind_of_ok froze, ?_, fun path node reached => ?_⟩
      · rw [RootedTrie.read_freeze stands frozen, plain, stored, marked]
        rfl
      · have inside := RootedTrie.find?_mem (stands.freeze frozen) reached
        obtain ⟨cell, there, -⟩ := loose node inside
        exact ⟨cell.freeze, by rw [frozen node inside, there]; rfl, rfl⟩

end Grove
end Honji
