import Honji.Proofs.Forest.Freezing
import Honji.Proofs.Forest.Sprouting

/-!
What every incident leaves of the ways up and of the marks. A forest stays wooded as long as no node
is attached below itself; and as long as no frozen node is released, a frozen node that is not a
root belongs to a frozen node.
-/

namespace Honji
namespace Forest
variable {α : Type} {before after forest : Forest α} {node parent child : Nat}

/-- A frozen node is a root, or the node it belongs to is frozen as well. -/
def Sheltered (forest : Forest α) : Prop :=
  ∀ (node : Nat) cell, forest.cell? node = some cell → cell.frozen = true → cell.key ≠ none →
    ∃ parent upper, cell.parent = some parent ∧ forest.cell? parent = some upper ∧
      upper.frozen = true

/-! ### Sprouting -/

namespace Sprouts

theorem up_of_lt (sprouts : before.Sprouts after) (inside : node < before.cells.size)
    (up : after.Up parent node) : before.Up parent node := by
  obtain ⟨cell, there⟩ := exists_cell_of_lt inside
  obtain ⟨later, found, extended⟩ := sprouts.kept node cell there
  rw [Up, parent?, found, Option.bind_some] at up
  rw [Up, parent?, there, Option.bind_some, ← extended.parent, up]

theorem placed (sprouts : before.Sprouts after) (beyond : before.cells.size ≤ node)
    (up : after.Up parent node) : parent < node ∧ node ∈ after.childrenOf parent := by
  obtain ⟨cell, there, known⟩ := Option.bind_eq_some_iff.1 up
  exact (sprouts.new node cell beyond there).2 parent known

theorem wooded (sprouts : before.Sprouts after) (wooded : before.Wooded) (owned : after.Owned) :
    after.Wooded where
  owned := owned
  upheld := fun node parent up => by
    by_cases inside : node < before.cells.size
    · exact sprouts.childrenOf (wooded.upheld node parent (sprouts.up_of_lt inside up))
    · exact (sprouts.placed (Nat.not_lt.1 inside) up).2
  rising := by
    have old (node : Nat) (inside : node < before.cells.size) : Acc after.Up node := by
      have rising := wooded.rising node
      induction rising with
      | intro node _ ih =>
          refine ⟨_, fun parent up => ?_⟩
          have upBefore := sprouts.up_of_lt inside up
          obtain ⟨cell, there, -⟩ := exists_storer (wooded.upheld node parent upBefore)
          exact ih parent upBefore (lt_size_of_cell? there)
    -- a new node belongs to one of a smaller number, be it old or new
    intro node
    induction node using Nat.strongRecOn with
    | ind node ih =>
        by_cases inside : node < before.cells.size
        · exact old node inside
        · exact ⟨_, fun parent up => ih parent (sprouts.placed (Nat.not_lt.1 inside) up).1⟩

theorem sheltered (sprouts : before.Sprouts after) (sheltered : before.Sheltered) :
    after.Sheltered := by
  intro node cell there frozen named
  by_cases inside : node < before.cells.size
  · obtain ⟨earlier, known⟩ := exists_cell_of_lt inside
    obtain ⟨later, found, extended⟩ := sprouts.kept node earlier known
    obtain rfl := Option.some.inj (there.symm.trans found)
    obtain ⟨parent, upper, up, storer, marked⟩ := sheltered node earlier known
      (extended.frozen.symm.trans frozen) (extended.key ▸ named)
    obtain ⟨upperLater, foundUpper, extendedUpper⟩ := sprouts.kept parent upper storer
    exact ⟨parent, upperLater, extended.parent.trans up, foundUpper,
      extendedUpper.frozen.trans marked⟩
  · have changeable := (sprouts.new node cell (Nat.not_lt.1 inside) there).1
    rw [changeable] at frozen
    cases frozen

end Sprouts

/-! ### Attaching -/

structure Attached (parent child : Nat) (before after : Forest α) : Prop where
  loose : ∃ cell, before.cell? child = some cell ∧ cell.key ≠ none ∧ cell.parent = none
  cells : ∃ symbol, ∀ node : Nat, after.cell? node = (before.cell? node).map fun cell =>
    { cell with
      children := cell.children ++ if parent = node then [(symbol, child)] else []
      parent := if child = node then some parent else cell.parent }

theorem run_attach_cases (parent child : Nat) (forest : Forest α) :
    (∃ outcome, Steps.run (attach parent child) forest = (outcome, forest) ∧
        (outcome = .ok () → forest.cell? child = none)) ∨
      ∃ after, Steps.run (attach parent child) forest = (.ok (), after) ∧
        forest.Attached parent child after := by
  obtain ⟨outcome, checked⟩ := run_checkMutable_cases parent forest
  rw [attach, Steps.run_bind, checked]
  cases outcome with
  | error failure => exact .inl ⟨.error failure, rfl, fun done => by cases done⟩
  | ok value =>
      simp only
      rw [Steps.run_bind_of_ok (Steps.run_get forest)]
      cases there : forest.cell? child with
      | none => exact .inl ⟨.ok (), rfl, fun _ => rfl⟩
      | some cell =>
          obtain ⟨_ | symbol, token, terminal, children, _ | up, frozen⟩ := cell
          · exact .inl ⟨_, rfl, fun done => by cases done⟩
          · exact .inl ⟨_, rfl, fun done => by cases done⟩
          · simp only
            rw [Steps.run_bind]
            rcases run_checkFree_cases parent symbol forest with ⟨failure, fails⟩ | ⟨-, passes⟩
            · rw [fails]
              exact .inl ⟨_, rfl, fun done => by cases done⟩
            rw [passes]
            refine .inr ⟨_, rfl, ⟨_, there, by simp, rfl⟩, symbol, fun node => ?_⟩
            rw [cell?_modify, cell?_modify]
            by_cases own : child = node <;> by_cases storing : parent = node <;>
              cases forest.cell? node <;> simp [own, storing]
          · exact .inl ⟨_, rfl, fun done => by cases done⟩

namespace Attached
variable (attached : before.Attached parent child after)
include attached

theorem up_cases {upper : Nat} (up : after.Up upper node) :
    (node = child ∧ upper = parent) ∨ (node ≠ child ∧ before.Up upper node) := by
  obtain ⟨symbol, cells⟩ := attached.cells
  obtain ⟨later, there, known⟩ := Option.bind_eq_some_iff.1 up
  rw [cells] at there
  obtain ⟨cell, found, rfl⟩ := Option.map_eq_some_iff.1 there
  by_cases own : child = node
  · simp only [own, if_true] at known
    exact .inl ⟨own.symm, (Option.some.inj known).symm⟩
  · simp only [own, if_false] at known
    exact .inr ⟨Ne.symm own, by rw [Up, parent?, found, Option.bind_some, known]⟩

theorem childrenOf {below upper : Nat} (stored : below ∈ before.childrenOf upper) :
    below ∈ after.childrenOf upper := by
  obtain ⟨symbol, cells⟩ := attached.cells
  obtain ⟨cell, there, member⟩ := exists_storer stored
  refine (mem_childrenOf ((cells upper).trans (congrArg _ there))).2 ?_
  rw [List.map_append]
  exact List.mem_append_left _ member

theorem stored (inside : parent < before.cells.size) : child ∈ after.childrenOf parent := by
  obtain ⟨symbol, cells⟩ := attached.cells
  obtain ⟨cell, there⟩ := exists_cell_of_lt inside
  exact (mem_childrenOf ((cells parent).trans (congrArg _ there))).2 (by simp)

theorem wooded (wooded : before.Wooded) (owned : after.Owned) (inside : parent < before.cells.size)
    (apart : ¬ before.Within child parent) : after.Wooded where
  owned := owned
  upheld := fun node upper up => by
    rcases attached.up_cases up with ⟨rfl, rfl⟩ | ⟨-, up⟩
    · exact attached.stored inside
    · exact attached.childrenOf (wooded.upheld node upper up)
  rising := by
    -- first the ways up that do not pass the child, and with them the one of its new parent
    have beside (node : Nat) (off : ¬ before.Within child node) : Acc after.Up node := by
      have rising := wooded.rising node
      induction rising with
      | intro node _ ih =>
          refine ⟨_, fun upper up => ?_⟩
          rcases attached.up_cases up with ⟨rfl, -⟩ | ⟨-, up⟩
          · exact absurd .top off
          · exact ih upper up fun within => off (within.step (wooded.upheld node upper up))
    intro node
    have rising := wooded.rising node
    induction rising with
    | intro node _ ih =>
        refine ⟨_, fun upper up => ?_⟩
        rcases attached.up_cases up with ⟨-, rfl⟩ | ⟨-, up⟩
        · exact beside upper apart
        · exact ih upper up

theorem sheltered (sheltered : before.Sheltered) : after.Sheltered := by
  obtain ⟨symbol, cells⟩ := attached.cells
  intro node later there frozen named
  rw [cells] at there
  obtain ⟨cell, found, rfl⟩ := Option.map_eq_some_iff.1 there
  obtain ⟨upper, storer, up, known, marked⟩ := sheltered node cell found frozen named
  have other : child ≠ node := by
    -- the child belonged to nobody, and so it was not frozen
    rintro rfl
    obtain ⟨loose, foundToo, -, free⟩ := attached.loose
    obtain rfl := Option.some.inj (found.symm.trans foundToo)
    cases free.symm.trans up
  refine ⟨upper, _, ?_, (cells upper).trans (congrArg _ known), marked⟩
  simp only [if_neg other, up]

end Attached

/-! ### Freezing -/

theorem exists_storer_of_reachable {depth : Nat} {top : Nat}
    (reached : node ∈ forest.reachable depth top) :
    node = top ∨ ∃ parent ∈ forest.reachable depth top, node ∈ forest.childrenOf parent := by
  induction depth generalizing top with
  | zero => simp [reachable] at reached
  | succ depth ih =>
      rw [reachable] at reached ⊢
      cases there : forest.cell? top with
      | none => simp [there] at reached
      | some cell =>
          simp only [there, List.mem_cons, List.mem_flatMap] at reached ⊢
          rcases reached with rfl | ⟨link, member, reached⟩
          · exact .inl rfl
          · have stored : link.2 ∈ forest.childrenOf top :=
              (mem_childrenOf there).2 (List.mem_map_of_mem member)
            rcases ih reached with rfl | ⟨parent, passed, storedToo⟩
            · exact .inr ⟨top, .inl rfl, stored⟩
            · exact .inr ⟨parent, .inr ⟨link, member, passed⟩, storedToo⟩

theorem run_freeze_cells (top : Nat) (forest : Forest α) : ∃ after,
    Steps.run (freeze top) forest = (.ok (), after) ∧ ∀ node, after.cell? node =
      if node ∈ forest.reachable forest.cells.size top then (forest.cell? node).map Cell.freeze
      else forest.cell? node := by
  obtain ⟨after, ran, cells⟩ := run_freezeEach (forest.reachable forest.cells.size top) forest
  exact ⟨after, by rw [freeze, Steps.run_bind_of_ok (Steps.run_get forest)]; exact ran, cells⟩

section
variable {top : Nat} (cells : ∀ node : Nat, after.cell? node =
  if node ∈ before.reachable before.cells.size top then (before.cell? node).map Cell.freeze
  else before.cell? node)
include cells

theorem up_freeze : after.Up = before.Up := by
  have parents : after.parent? = before.parent? := by
    funext node
    rw [parent?, parent?, cells]
    split
    · cases before.cell? node <;> rfl
    · rfl
  unfold Up
  rw [parents]

theorem Wooded.freeze (wooded : before.Wooded) (owned : after.Owned) : after.Wooded := by
  have ups := up_freeze cells
  have children (node : Nat) : after.childrenOf node = before.childrenOf node := by
    rw [childrenOf, childrenOf, cells]
    split
    · cases before.cell? node <;> rfl
    · rfl
  refine ⟨owned, fun node parent up => ?_, fun node => ups ▸ wooded.rising node⟩
  rw [children]
  exact wooded.upheld node parent (ups ▸ up)

theorem Sheltered.freeze (sheltered : before.Sheltered) (owned : before.Owned)
    {root : Cell α} (there : before.cell? top = some root) (unnamed : root.key = none) :
    after.Sheltered := by
  have marks (node : Nat) (cell : Cell α) (known : before.cell? node = some cell)
      (reached : node ∈ before.reachable before.cells.size top ∨ cell.frozen = true) :
      ∃ later, after.cell? node = some later ∧ later.frozen = true := by
    rw [cells, known]
    split
    · exact ⟨_, rfl, rfl⟩
    · next off => exact ⟨cell, rfl, reached.resolve_left off⟩
  intro node later known frozen named
  rw [cells] at known
  split at known
  · next reached =>
    obtain ⟨cell, found, rfl⟩ := Option.map_eq_some_iff.1 known
    rcases exists_storer_of_reachable reached with rfl | ⟨parent, passed, stored⟩
    · obtain rfl := Option.some.inj (there.symm.trans found)
      exact absurd unnamed named
    · obtain ⟨foundToo, here, up⟩ := owned.exists_stored stored
      obtain rfl := Option.some.inj (found.symm.trans here)
      obtain ⟨storer, upper, -⟩ := exists_storer stored
      obtain ⟨now, thereNow, marked⟩ := marks parent storer upper (.inl passed)
      exact ⟨parent, now, up, thereNow, marked⟩
  · obtain ⟨parent, upper, up, storer, marked⟩ := sheltered node later known frozen named
    obtain ⟨now, thereNow, markedNow⟩ := marks parent upper storer (.inr marked)
    exact ⟨parent, now, up, thereNow, markedNow⟩

end

/-! ### Releasing -/

theorem up_of_release (up : (forest.release node).Up parent child) :
    forest.Up parent child ∧ child ∉ forest.childrenOf node := by
  obtain ⟨later, there, known⟩ := Option.bind_eq_some_iff.1 up
  rw [cell?_release] at there
  obtain ⟨cell, found, rfl⟩ := Option.map_eq_some_iff.1 there
  by_cases freed : child ∈ forest.childrenOf node
  · simp [freed] at known
  · simp only [freed, if_false] at known
    exact ⟨by rw [Up, parent?, found, Option.bind_some, known], freed⟩

theorem Wooded.release (wooded : forest.Wooded) (node : Nat) : (forest.release node).Wooded where
  owned := (evolves_release wooded.owned node).owned
  upheld := fun child parent up => by
    obtain ⟨earlier, kept⟩ := up_of_release up
    have stored := wooded.upheld child parent earlier
    have other : parent ≠ node := by
      rintro rfl
      exact kept stored
    obtain ⟨storer, upper, member⟩ := exists_storer stored
    refine (mem_childrenOf ((cell?_release forest node parent).trans (congrArg _ upper))).2 ?_
    simpa [other] using member
  rising := fun child =>
    Subrelation.accessible (fun {_ _} up => (up_of_release up).1) (wooded.rising child)

theorem Sheltered.release (sheltered : forest.Sheltered) (owned : forest.Owned)
    (changeable : forest.Changeable [node]) : (forest.release node).Sheltered := by
  intro child later there frozen named
  rw [cell?_release] at there
  obtain ⟨cell, found, rfl⟩ := Option.map_eq_some_iff.1 there
  obtain ⟨parent, upper, up, storer, marked⟩ := sheltered child cell found frozen named
  have kept : child ∉ forest.childrenOf node := by
    intro stored
    obtain ⟨foundToo, here, upToo⟩ := owned.exists_stored stored
    obtain rfl := Option.some.inj (found.symm.trans here)
    obtain rfl := Option.some.inj (up.symm.trans upToo)
    cases (changeable parent List.mem_cons_self upper storer).symm.trans marked
  exact ⟨parent, _, (if_neg kept).trans up,
    (cell?_release forest node parent).trans (congrArg _ storer), marked⟩

end Forest

/-! ### Histories -/

namespace Woods
variable {α : Type} {woods : Woods α}

def Straight (woods : Woods α) : Incident α → Prop
  | .operation (.attach parent child) => ¬ woods.forest.Within child parent
  | _ => True

/--
Frozen nodes are held for good. One that had lost its parent could be attached anywhere, and a merge
that met it there would be refused.
-/
def Holding (woods : Woods α) : Incident α → Prop
  | .release node => woods.forest.Changeable [node]
  | _ => True

theorem wooded_bare : (bare : Woods α).forest.Wooded where
  owned := tended_bare.owned
  upheld := fun _ _ up => by
    simp [Forest.Up, Forest.parent?, bare, Forest.empty, Forest.cell?] at up
  rising := fun _ => ⟨_, fun _ up => by
    simp [Forest.Up, Forest.parent?, bare, Forest.empty, Forest.cell?] at up⟩

theorem sheltered_bare : (bare : Woods α).forest.Sheltered :=
  fun _ _ there => by simp [bare, Forest.empty, Forest.cell?] at there

variable [Token α]

def Throughout (condition : Woods α → Incident α → Prop) : Woods α → List (Incident α) → Prop
  | _, [] => True
  | woods, incident :: rest =>
      condition woods incident ∧ (woods.undergo incident).Throughout condition rest

theorem perform_attach_cases (woods : Woods α) (parent child : NodeId) :
    (woods.perform (.attach parent child)).forest = woods.forest ∨
      woods.forest.Attached parent child (woods.perform (.attach parent child)).forest := by
  rw [forest_perform, Operation.act, Operation.forest_silent]
  rcases Forest.run_attach_cases parent child woods.forest with
    ⟨outcome, ran, -⟩ | ⟨after, ran, attached⟩
  · exact .inl (by rw [ran])
  · exact .inr (by rw [ran]; exact attached)

theorem perform_freeze_cells (woods : Woods α) (trie : RootedTrie α) (node : Nat) :
    (woods.perform (.freeze trie)).forest.cell? node =
      if node ∈ woods.forest.reachable woods.forest.cells.size trie.root then
        (woods.forest.cell? node).map Cell.freeze
      else woods.forest.cell? node := by
  obtain ⟨after, ran, cells⟩ := Forest.run_freeze_cells trie.root woods.forest
  rw [forest_perform, Operation.act, Operation.forest_silent, RootedTrie.freeze, ran, cells]

namespace Tended
variable (tended : woods.Tended)
include tended

theorem wooded_undergo (wooded : woods.forest.Wooded) {incident : Incident α}
    (admitted : woods.Admits incident) (straight : woods.Straight incident) :
    (woods.undergo incident).forest.Wooded := by
  have owned := (tended.undergo admitted).owned
  cases incident with
  | release node => exact wooded.release node
  | operation operation =>
      cases operation with
      | attach parent child =>
          rcases woods.perform_attach_cases parent child with same | attached
          · exact same.symm ▸ wooded
          · exact attached.wooded wooded owned (admitted.1 parent (by simp [Operation.nodes]))
              straight
      | freeze trie => exact wooded.freeze (woods.perform_freeze_cells trie) owned
      | _ => exact (tended.sprouts admitted rfl).wooded wooded owned

theorem sheltered_undergo (sheltered : woods.forest.Sheltered) {incident : Incident α}
    (admitted : woods.Admits incident) (holding : woods.Holding incident) :
    (woods.undergo incident).forest.Sheltered := by
  cases incident with
  | release node => exact sheltered.release tended.owned holding
  | operation operation =>
      cases operation with
      | attach parent child =>
          rcases woods.perform_attach_cases parent child with same | attached
          · exact same.symm ▸ sheltered
          · exact attached.sheltered sheltered
      | freeze trie =>
          obtain ⟨root, there, unnamed⟩ :=
            tended.rooted trie (admitted.2 trie (by simp [Operation.tries]))
          exact sheltered.freeze (woods.perform_freeze_cells trie) tended.owned there unnamed
      | _ => exact (tended.sprouts admitted rfl).sheltered sheltered

theorem wooded_undergoAll (wooded : woods.forest.Wooded) {incidents : List (Incident α)}
    (admitted : woods.AdmitsAll incidents) (straight : woods.Throughout Straight incidents) :
    (woods.undergoAll incidents).forest.Wooded := by
  induction incidents generalizing woods with
  | nil => exact wooded
  | cons incident rest ih =>
      exact ih (tended.undergo admitted.1)
        (tended.wooded_undergo wooded admitted.1 straight.1) admitted.2 straight.2

theorem sheltered_undergoAll (sheltered : woods.forest.Sheltered) {incidents : List (Incident α)}
    (admitted : woods.AdmitsAll incidents) (holding : woods.Throughout Holding incidents) :
    (woods.undergoAll incidents).forest.Sheltered := by
  induction incidents generalizing woods with
  | nil => exact sheltered
  | cons incident rest ih =>
      exact ih (tended.undergo admitted.1)
        (tended.sheltered_undergo sheltered admitted.1 holding.1) admitted.2 holding.2

end Tended
end Woods
end Honji
