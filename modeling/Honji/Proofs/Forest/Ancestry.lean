import Honji.Proofs.Forest.Climbing
import Honji.Proofs.Forest.Incidents

/-!
Ancestors and descendants. In a forest that is wooded, every node belongs to the one that is its
parent and every way up ends. Then no node is below itself, below every node stands a finite tree,
and the path of a node can be written down.
-/

namespace Honji
namespace Forest
variable {α : Type} {forest : Forest α} {node parent child top other : Nat}

def parent? (forest : Forest α) (node : NodeId) : Option NodeId :=
  (forest.cell? node).bind (·.parent)

theorem mem_childrenOf {cell : Cell α} (there : forest.cell? parent = some cell) :
    child ∈ forest.childrenOf parent ↔ child ∈ cell.children.map Prod.snd := by
  rw [childrenOf, there]
  rfl

theorem exists_storer (stored : child ∈ forest.childrenOf parent) :
    ∃ cell, forest.cell? parent = some cell ∧ child ∈ cell.children.map Prod.snd := by
  cases there : forest.cell? parent with
  | none => simp [childrenOf, there] at stored
  | some cell => exact ⟨cell, rfl, (mem_childrenOf there).1 stored⟩

theorem mem_childrenOf_of_child? {symbol : Symbol}
    (led : forest.child? parent symbol = some child) : child ∈ forest.childrenOf parent := by
  obtain ⟨cell, there, looked⟩ := Option.bind_eq_some_iff.1 led
  obtain ⟨front, back, parts, -⟩ := List.lookup_eq_some_iff.1 looked
  exact (mem_childrenOf there).2 (by simp [parts])

theorem Owned.exists_stored (owned : forest.Owned) (stored : child ∈ forest.childrenOf parent) :
    ∃ cell, forest.cell? child = some cell ∧ cell.parent = some parent := by
  obtain ⟨storer, there, member⟩ := exists_storer stored
  exact owned.exists_parent there member

theorem Owned.parent?_eq (owned : forest.Owned) (stored : child ∈ forest.childrenOf parent) :
    forest.parent? child = some parent := by
  obtain ⟨cell, there, up⟩ := owned.exists_stored stored
  rw [parent?, there, Option.bind_some, up]

/-! ### Below a node -/

namespace Within

theorem step (within : forest.Within top parent) (stored : child ∈ forest.childrenOf parent) :
    forest.Within top child := by
  obtain ⟨cell, there, member⟩ := exists_storer stored
  exact within.child there member

theorem trans (upper : forest.Within top node) (lower : forest.Within node other) :
    forest.Within top other := by
  induction lower with
  | top => exact upper
  | child _ there stored ih => exact ih.child there stored

theorem eq_or_stored (within : forest.Within top node) :
    node = top ∨ ∃ parent, forest.Within top parent ∧ node ∈ forest.childrenOf parent := by
  cases within with
  | top => exact .inl rfl
  | child above there stored => exact .inr ⟨_, above, (mem_childrenOf there).2 stored⟩

theorem comparable (owned : forest.Owned) (first : forest.Within top node)
    (second : forest.Within other node) : forest.Within top other ∨ forest.Within other top := by
  induction first with
  | top => exact .inr second
  | @child parent child cell above there stored ih =>
      rcases second.eq_or_stored with rfl | ⟨storer, aboveToo, storedToo⟩
      · exact .inl (above.child there stored)
      · -- both ways down reach the node from its only parent
        have same := owned.parent?_eq storedToo
        rw [owned.parent?_eq ((mem_childrenOf there).2 stored)] at same
        exact ih (Option.some.inj same ▸ aboveToo)

theorem mem_of_closed (part : List Nat) (within : forest.Within top node) (start : top ∈ part)
    (closed : ∀ member ∈ part, ∀ child ∈ forest.childrenOf member, child ∈ part) :
    node ∈ part := by
  induction within with
  | top => exact start
  | child _ there stored ih => exact closed _ ih _ ((mem_childrenOf there).2 stored)

theorem congr {before after : Forest α}
    (same : ∀ node, before.Within top node → after.cell? node = before.cell? node) :
    after.Within top node ↔ before.Within top node := by
  constructor <;> intro within
  · induction within with
    | top => exact .top
    | child _ there stored ih => exact ih.child ((same _ ih).symm.trans there) stored
  · induction within with
    | top => exact .top
    | child above there stored ih => exact ih.child ((same _ above).trans there) stored

end Within

/-- Every way down from a node is shorter than a number of steps. -/
def Shallow (forest : Forest α) : Nat → NodeId → Prop
  | 0, _ => False
  | depth + 1, node => ∀ child ∈ forest.childrenOf node, forest.Shallow depth child

instance decidableShallow (forest : Forest α) :
    (depth : Nat) → (node : NodeId) → Decidable (forest.Shallow depth node)
  | 0, _ => isFalse id
  | depth + 1, node =>
      have : ∀ child, Decidable (forest.Shallow depth child) := decidableShallow forest depth
      inferInstanceAs (Decidable (∀ child ∈ forest.childrenOf node, forest.Shallow depth child))

namespace Shallow
variable {depth : Nat}

theorem succ (shallow : forest.Shallow depth node) : forest.Shallow (depth + 1) node := by
  induction depth generalizing node with
  | zero => exact shallow.elim
  | succ depth ih => exact fun child stored => ih (shallow child stored)

theorem within (shallow : forest.Shallow depth top) (within : forest.Within top node) :
    forest.Shallow depth node := by
  induction within with
  | top => exact shallow
  | child _ there stored ih =>
      cases depth with
      | zero => exact ih.elim
      | succ depth => exact (ih _ ((mem_childrenOf there).2 stored)).succ

theorem not_within (shallow : forest.Shallow depth node) (stored : child ∈ forest.childrenOf node) :
    ¬ forest.Within child node := by
  intro around
  induction depth with
  | zero => exact shallow
  | succ depth ih => exact ih ((shallow child stored).within around)

end Shallow

theorem Owned.exists_stands_of_shallow (owned : forest.Owned) {depth : Nat} {cell : Cell α}
    (there : forest.cell? node = some cell) (shallow : forest.Shallow depth node) :
    ∃ layout, forest.Stands node layout := by
  induction depth generalizing node cell with
  | zero => exact shallow.elim
  | succ depth ih =>
      have each : ∀ link ∈ cell.children, ∃ below, forest.Stands link.2 below ∧
          ∀ member ∈ link.2 :: below.nodes, member ∉ [node] := by
        intro link member
        have stored : link.2 ∈ forest.childrenOf node :=
          (mem_childrenOf there).2 (List.mem_map_of_mem member)
        obtain ⟨found, here, -⟩ := owned.exists_stored stored
        obtain ⟨below, stands⟩ := ih here (shallow link.2 stored)
        refine ⟨below, stands, fun other inside same => ?_⟩
        obtain rfl := List.mem_singleton.1 same
        exact shallow.not_within stored (stands.within_iff.2 inside)
      obtain ⟨layout, links, holds, apart, distinct, off⟩ := owned.exists_layout there
        List.mem_cons_self (List.Subset.refl _) (owned.distinct node cell there) each
      exact ⟨layout, ⟨cell, there, links.symm⟩, holds,
        List.nodup_cons.2 ⟨fun inside => off node inside List.mem_cons_self, apart⟩, distinct⟩

/-! ### Above a node -/

def Up (forest : Forest α) (parent node : Nat) : Prop :=
  forest.parent? node = some parent

/-- Every node is stored by its parent and by nobody else, and no way up goes on for ever. -/
structure Wooded (forest : Forest α) : Prop where
  owned : forest.Owned
  upheld : ∀ node parent, forest.Up parent node → node ∈ forest.childrenOf parent
  rising : ∀ node, Acc forest.Up node

namespace Wooded
variable (wooded : forest.Wooded)
include wooded

theorem not_within (stored : child ∈ forest.childrenOf parent) : ¬ forest.Within child parent := by
  have rising := wooded.rising parent
  induction rising generalizing child with
  | intro parent _ ih =>
      intro below
      rcases below.eq_or_stored with rfl | ⟨upper, between, storedToo⟩
      · exact ih _ (wooded.owned.parent?_eq stored) stored .top
      · -- the same happens one step further up, where the way round passes the parent
        have around : forest.Within parent upper := (Within.top.step stored).trans between
        exact ih upper (wooded.owned.parent?_eq storedToo) storedToo around

theorem unstored (loose : forest.parent? node = none) : forest.Unstored node := by
  intro cell member stored
  obtain ⟨parent, known⟩ := Array.mem_iff_getElem?.1 member
  have there : forest.cell? parent = some cell := known
  cases loose.symm.trans (wooded.owned.parent?_eq ((mem_childrenOf there).2 stored))

theorem exists_line (inside : node < forest.cells.size) : ∃ above, forest.Line (node :: above) := by
  have rising := wooded.rising node
  induction rising with
  | intro node _ ih =>
      cases up : forest.parent? node with
      | none => exact ⟨[], .top inside (wooded.unstored up)⟩
      | some parent =>
          obtain ⟨cell, there, stored⟩ := exists_storer (wooded.upheld node parent up)
          obtain ⟨above, line⟩ := ih parent up (lt_size_of_cell? there)
          exact ⟨parent :: above, line.down there stored⟩

theorem exists_stands (inside : node < forest.cells.size) :
    ∃ layout, forest.Stands node layout := by
  obtain ⟨above, line⟩ := wooded.exists_line inside
  obtain ⟨layout, stands, -⟩ :=
    wooded.owned.exists_stands_of_line forest.cells.size line (by omega)
  exact ⟨layout, stands⟩

end Wooded

/-! ### Paths -/

section
variable {before after : Forest α} {part : NodeId → Prop}
  (upward : ∀ node parent, part node → before.Up parent node → part parent)
  (same : ∀ node, part node → (after.cell? node).map (fun cell => (cell.key, cell.parent)) =
    (before.cell? node).map fun cell => (cell.key, cell.parent))
include upward same

theorem climb?_congr (inside : part node) (steps : Nat) (collected : Path) :
    after.climb? steps node collected = before.climb? steps node collected := by
  induction steps generalizing node collected with
  | zero => rfl
  | succ steps ih =>
      have here := same node inside
      rw [climb?, climb?]
      cases earlier : before.cell? node with
      | none =>
          rw [earlier, Option.map_none, Option.map_eq_none_iff] at here
          rw [here]
      | some cell =>
          rw [earlier, Option.map_some, Option.map_eq_some_iff] at here
          obtain ⟨later, there, alike⟩ := here
          obtain ⟨key, parent⟩ := Prod.mk.inj alike
          simp only [there, key, parent]
          rcases cell.key with _ | symbol
          · rfl
          rcases up : cell.parent with _ | upper
          · rfl
          · have above : before.Up upper node := by
              rw [Up, parent?, earlier, Option.bind_some, up]
            exact ih (upward node upper inside above) _

theorem path_congr (inside : part node) : after.path node = before.path node := by
  have climbs := climb?_congr upward same inside
  cases ends : before.climb? (before.cells.size + 1) node [] with
  | some symbols => rw [path_eq ends, path_eq ((climbs _ _).trans ends)]
  | none =>
      -- a way that does not end within the first forest's steps does not end at all
      have endless : before.climb? (after.cells.size + 1) node [] = none := by
        refine Option.eq_none_iff_forall_ne_some.2 fun symbols climbed => ?_
        cases ends.symm.trans (climb?_size climbed)
      rw [path, path, climbs, endless, ends]

end

theorem Wooded.exists_climb (wooded : forest.Wooded) (node : Nat) :
    ∃ steps, forest.climb? steps node [] = some (forest.path node) := by
  suffices ∃ steps symbols, forest.climb? steps node [] = some symbols by
    obtain ⟨steps, symbols, ends⟩ := this
    exact ⟨steps, by rw [ends, path_eq ends]⟩
  have rising := wooded.rising node
  induction rising with
  | intro node _ ih =>
      rcases climb?_cases forest node with ⟨last, ends⟩ | ⟨_, symbol, parent, there, key, up⟩
      · exact ⟨1, _, ends 0 []⟩
      · obtain ⟨steps, symbols, ends⟩ :=
          ih parent (by rw [Up, parent?, there, Option.bind_some, up])
        exact ⟨steps + 1, _, by
          rw [climb?_of_parent there key up, climb?_append, ends, Option.map_some]⟩

theorem Wooded.path_stored (wooded : forest.Wooded) {symbol : Symbol} {cell : Cell α}
    (there : forest.cell? parent = some cell)
    (stored : (symbol, child) ∈ cell.children) :
    forest.path child = forest.path parent ++ [symbol] := by
  obtain ⟨found, here, key, up⟩ := wooded.owned.linked parent cell there _ stored
  obtain ⟨steps, ends⟩ := wooded.exists_climb parent
  exact path_eq (by
    rw [climb?_of_parent here key up, climb?_append, ends, Option.map_some])

end Forest
end Honji
