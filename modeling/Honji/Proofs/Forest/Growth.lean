import Honji.Proofs.Forest.Layout
import Honji.Proofs.Steps

/-!
Trees stored in a forest. Every node of such a tree is new; of the nodes that were there before only
the one to which the tree was added is touched, and it gains children behind those it had.
-/

namespace Honji
namespace Forest
variable {α : Type}

/-! ### Single cells -/

theorem cell?_push (forest : Forest α) (cell : Cell α) (node : Nat) :
    (⟨forest.cells.push cell⟩ : Forest α).cell? node =
      if node = forest.cells.size then some cell else forest.cell? node := by
  simp [cell?, Array.getElem?_push]

theorem cell?_modify (forest : Forest α) (changed : Nat) (change : Cell α → Cell α)
    (node : Nat) : (⟨forest.cells.modify changed change⟩ : Forest α).cell? node =
      if changed = node then (forest.cell? node).map change else forest.cell? node := by
  simp [cell?, Array.getElem?_modify]

@[simp] theorem run_grow (cell : Cell α) (forest : Forest α) :
    Steps.run (grow cell) forest = (.ok forest.cells.size, ⟨forest.cells.push cell⟩) := rfl

/-! ### Forests that grow -/

/--
A forest becomes another one. Only touched nodes have another content than before, and they keep
their key, their parent and whether they are frozen; new nodes are not frozen.
-/
structure Grows (touched : List Nat) (before after : Forest α) : Prop where
  size : before.cells.size ≤ after.cells.size
  same : ∀ node : Nat, node < before.cells.size → node ∉ touched →
    after.cell? node = before.cell? node
  kept : ∀ (node : Nat) cell, before.cell? node = some cell →
    ∃ later, after.cell? node = some later ∧ later.key = cell.key ∧
      later.parent = cell.parent ∧ later.frozen = cell.frozen
  changeable : ∀ (node : Nat) cell, before.cells.size ≤ node →
    after.cell? node = some cell → cell.frozen = false

namespace Grows
variable {touched more : List Nat} {before between after : Forest α}

theorem refl (touched : List Nat) (forest : Forest α) : Grows touched forest forest where
  size := Nat.le_refl _
  same := fun _ _ _ => rfl
  kept := fun _ cell there => ⟨cell, there, rfl, rfl, rfl⟩
  changeable := fun _ _ beyond there => absurd (lt_size_of_cell? there) (Nat.not_lt.2 beyond)

theorem trans (first : Grows touched before between) (second : Grows more between after)
    (covered : ∀ node ∈ more, node ∈ touched ∨ before.cells.size ≤ node) :
    Grows touched before after where
  size := Nat.le_trans first.size second.size
  same := fun node inside untouched => by
    have free : node ∉ more := fun member =>
      (covered node member).elim untouched (Nat.not_le.2 inside)
    rw [second.same node (Nat.lt_of_lt_of_le inside first.size) free,
      first.same node inside untouched]
  kept := fun node cell there => by
    obtain ⟨one, found, key, parent, frozen⟩ := first.kept node cell there
    obtain ⟨two, foundToo, keyToo, parentToo, frozenToo⟩ := second.kept node one found
    exact ⟨two, foundToo, keyToo.trans key, parentToo.trans parent, frozenToo.trans frozen⟩
  changeable := fun node cell beyond there => by
    by_cases inside : node < between.cells.size
    · obtain ⟨one, found⟩ := exists_cell_of_lt inside
      obtain ⟨two, foundToo, -, -, frozen⟩ := second.kept node one found
      obtain rfl := Option.some.inj (there.symm.trans foundToo)
      rw [frozen, first.changeable node one beyond found]
    · exact second.changeable node cell (Nat.not_lt.1 inside) there

theorem weaken (grows : Grows touched before after) (covered : ∀ node ∈ touched, node ∈ more) :
    Grows more before after :=
  { grows with same := fun node inside free =>
      grows.same node inside fun member => free (covered node member) }

theorem modify (forest : Forest α) (node : Nat) (change : Cell α → Cell α)
    (keeps : ∀ cell, (change cell).key = cell.key ∧ (change cell).parent = cell.parent ∧
      (change cell).frozen = cell.frozen) :
    Grows [node] forest ⟨forest.cells.modify node change⟩ where
  size := by simp
  same := fun other _ free => by
    rw [cell?_modify, if_neg fun same => free (by simp [same])]
  kept := fun other cell there => by
    rw [cell?_modify, there]
    split
    · exact ⟨_, rfl, keeps cell⟩
    · exact ⟨cell, rfl, rfl, rfl, rfl⟩
  changeable := fun other cell beyond there => by
    have inside := lt_size_of_cell? there
    simp only [Array.size_modify] at inside
    omega

theorem push (forest : Forest α) {cell : Cell α} (changeable : cell.frozen = false) :
    Grows [] forest ⟨forest.cells.push cell⟩ where
  size := by simp
  same := fun other inside _ => by
    rw [cell?_push, if_neg (Nat.ne_of_lt inside)]
  kept := fun other found there => by
    have inside := lt_size_of_cell? there
    rw [cell?_push, if_neg (Nat.ne_of_lt inside)]
    exact ⟨found, there, rfl, rfl, rfl⟩
  changeable := fun other found beyond there => by
    rw [cell?_push] at there
    split at there
    · obtain rfl := Option.some.inj there
      exact changeable
    · exact absurd (lt_size_of_cell? there) (Nat.not_lt.2 beyond)

end Grows

/-! ### Forests that are kept -/

section
variable {before after : Forest α} {node : Nat} {layout : Layout α}

def Keeps (before after : Forest α) : Prop :=
  ∀ (node : Nat) cell, before.cell? node = some cell → after.cell? node = some cell

instance : Std.Refl (@Keeps α) :=
  ⟨fun _ _ _ there => there⟩

instance : IsTrans (Forest α) Keeps :=
  ⟨fun _ _ _ first second node cell there => second node cell (first node cell there)⟩

theorem Grows.keeps (grows : Grows [] before after) : before.Keeps after := fun node cell there =>
  (grows.same node (lt_size_of_cell? there) (by simp)).trans there

theorem Stands.keep (stands : before.Stands node layout) (keeps : before.Keeps after) :
    after.Stands node layout := by
  refine stands.congr fun member inside => ?_
  obtain ⟨cell, there⟩ := stands.exists_cell inside
  rw [there, keeps member cell there]

theorem Stands.grow (stands : before.Stands node layout) (grows : Grows [] before after) :
    after.Stands node layout :=
  stands.keep grows.keeps

end

/-! ### Storing trees -/

structure Sown (parent : Nat) (cell : Cell α) (layout : Layout α) (before after : Forest α) :
    Prop where
  top : after.cell? parent = some { cell with children := cell.children ++ layout.links }
  holds : after.Holds parent layout
  fresh : ∀ node ∈ layout.nodes, before.cells.size ≤ node
  apart : layout.nodes.Nodup
  grows : Grows [parent] before after

theorem run_growChild {forest : Forest α} {parent : Nat} {cell : Cell α}
    (there : forest.cell? parent = some cell) (symbol : Symbol) (entry : Entry α) :
    ∃ after, Steps.run (growChild parent symbol entry) forest = (.ok forest.cells.size, after) ∧
      after.cells.size = forest.cells.size + 1 ∧
      after.cell? forest.cells.size =
        some ⟨some symbol, entry.token, entry.terminal, [], some parent, false⟩ ∧
      after.cell? parent =
        some { cell with children := cell.children ++ [(symbol, forest.cells.size)] } ∧
      Grows [parent] forest after := by
  have inside := lt_size_of_cell? there
  let child : Cell α := { Cell.loose (some symbol) entry with parent := some parent }
  let pushed : Forest α := ⟨forest.cells.push child⟩
  let enter (cell : Cell α) : Cell α :=
    { cell with children := cell.children ++ [(symbol, forest.cells.size)] }
  refine ⟨⟨pushed.cells.modify parent enter⟩, rfl, by simp [pushed], ?_, ?_, ?_⟩
  · rw [cell?_modify, if_neg (Nat.ne_of_lt inside), cell?_push, if_pos rfl]
    rfl
  · rw [cell?_modify, if_pos rfl, cell?_push, if_neg (Nat.ne_of_lt inside), there]
    rfl
  · have grown : Grows [parent] forest pushed := (Grows.push forest rfl).weaken (by simp)
    exact grown.trans (Grows.modify pushed parent enter fun _ => ⟨rfl, rfl, rfl⟩)
      fun node member => .inl member

theorem run_sow (branches : Branches α) {forest : Forest α} {parent : Nat} {cell : Cell α}
    (there : forest.cell? parent = some cell) : ∃ after layout,
      Steps.run (sow parent branches) forest = (.ok (), after) ∧ layout.branches = branches ∧
        Sown parent cell layout forest after := by
  induction branches generalizing forest parent cell with
  | nil =>
      exact ⟨forest, .nil, rfl, rfl, by simpa [Layout.links] using there, trivial,
        by simp [Layout.nodes], List.nodup_nil, .refl _ _⟩
  | cons symbol entry below rest belowHyp restHyp =>
      have inside := lt_size_of_cell? there
      obtain ⟨one, ran, size, child, top, grows⟩ := run_growChild there symbol entry
      obtain ⟨two, under, belowRan, rfl, sown⟩ := belowHyp child
      have topTwo := (sown.grows.same parent (by omega) (by simp; omega)).trans top
      obtain ⟨three, beside, restRan, rfl, sownToo⟩ := restHyp topTwo
      have grownTwo := sown.grows.size
      -- what was stored below the child lies between the sizes before and after
      have behind : ∀ node ∈ under.nodes, one.cells.size ≤ node ∧ node < two.cells.size :=
        fun node member => ⟨sown.fresh node member, sown.holds.lt_size node member⟩
      refine ⟨three, .cons symbol forest.cells.size entry under beside, ?_, rfl, ?_, ?_, ?_, ?_, ?_⟩
      · rw [sow, Steps.run_bind_of_ok ran, Steps.run_bind_of_ok belowRan, restRan]
      · rw [sownToo.top]
        simp [Layout.links]
      · refine ⟨⟨false, ?_⟩, sown.holds.congr fun node member => ?_, sownToo.holds⟩
        · rw [sownToo.grows.same _ (by omega) (by simp; omega), sown.top]
          simp
        · have bounds := behind node member
          exact sownToo.grows.same node bounds.2 (by simp; omega)
      · refine List.forall_mem_cons.2 ⟨Nat.le_refl _, fun node member => ?_⟩
        rcases List.mem_append.1 member with member | member
        · have bounds := behind node member
          omega
        · have beyond := sownToo.fresh node member
          omega
      · refine List.nodup_cons.2 ⟨fun member => ?_, List.nodup_append.2
          ⟨sown.apart, sownToo.apart, fun node member other also same => ?_⟩⟩
        · rcases List.mem_append.1 member with member | member
          · have bounds := behind _ member
            omega
          · have beyond := sownToo.fresh _ member
            omega
        · have bounds := behind node member
          have beyond := sownToo.fresh other also
          omega
      · have grownOne : Grows [parent] forest two := grows.trans sown.grows fun node member => by
          exact .inr (Nat.le_of_eq (List.mem_singleton.1 member).symm)
        exact grownOne.trans sownToo.grows fun node member => .inl member

end Forest
end Honji
