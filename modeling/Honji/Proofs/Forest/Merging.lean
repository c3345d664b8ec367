import Honji.Proofs.Forest.Growth

/-!
Laying one tree of a forest over another. What is read from the target afterwards is the merge of
the two trees. Only cells of the target's own tree are written, and what is added to it lies in new
cells, so the other tree, like every tree elsewhere, stays as it was.
-/

namespace Honji
namespace Branches
variable {α : Type} (resolve : Resolver α)

theorem merge_nil (branches : Branches α) : branches.merge resolve .nil = branches := by
  induction branches with
  | nil => rfl
  | cons symbol entry below rest _ ih => simp [merge, lookup, ih]

theorem merge_cons (first : Branches α) {symbol : Symbol} (entry : Entry α) (below : Branches α)
    {rest : Branches α} (fresh : symbol ∉ rest.keys) :
    first.merge resolve (.cons symbol entry below rest) =
      (first.merge resolve (.cons symbol entry below .nil)).merge resolve rest := by
  induction first generalizing rest with
  | nil => simp [merge, lookup_eq_none_iff.2 fresh]
  | cons head headEntry headBelow siblings _ ih =>
      by_cases same : symbol = head
      · subst same
        simp [merge, lookup, erase, merge_nil, lookup_eq_none_iff.2 fresh]
      · have later : symbol ∉ (rest.erase head).keys := fun member =>
          fresh (keys_erase_subset member)
        cases found : rest.lookup head <;>
          simp [merge, lookup, erase, same, found, ih fresh, ih later]

theorem merge_single_of_notMem {first : Branches α} {symbol : Symbol} (fresh : symbol ∉ first.keys)
    (entry : Entry α) (below : Branches α) :
    first.merge resolve (.cons symbol entry below .nil) = first.snoc symbol entry below := by
  induction first with
  | nil => rfl
  | cons head headEntry headBelow rest _ ih =>
      obtain ⟨other, later⟩ : symbol ≠ head ∧ symbol ∉ rest.keys := by simpa [keys] using fresh
      simp [merge, lookup, snoc, other, ih later]

end Branches

namespace Layout
variable {α : Type} {first before after : Layout α} {symbol : Symbol} {node : Nat}
  {entry other : Entry α} {below under : Layout α}

theorem branches_append_single (first : Layout α) :
    (first.append (cons symbol node entry below nil)).branches =
      first.branches.snoc symbol entry below.branches := by
  induction first with
  | nil => rfl
  | cons head child headEntry headBelow rest _ ih => simp [append, branches, Branches.snoc, ih]

theorem merge_branches_append {resolve : Resolver α} {laid : Branches α}
    (fresh : symbol ∉ before.links.map Prod.fst)
    (merged : under.branches =
      below.branches.merge (resolve.beneath [symbol] [symbol]) laid) :
    (before.append (cons symbol node
        ⟨resolve.beneath [symbol] [symbol] ⟨entry, [], below.branches⟩ ⟨other, [], laid⟩,
          entry.terminal.either other.terminal⟩ under after)).branches =
      (before.append (cons symbol node entry below after)).branches.merge resolve
        (.cons symbol other laid .nil) := by
  induction before with
  | nil => simp [append, branches, Branches.merge, Branches.lookup, Branches.erase,
      Branches.merge_nil, merged]
  | cons head child headEntry headBelow rest _ ih =>
      obtain ⟨same, later⟩ : symbol ≠ head ∧ symbol ∉ rest.links.map Prod.fst := by
        simpa [links] using fresh
      simp [append, branches, Branches.merge, Branches.lookup, same, ih later]

end Layout

def Cell.met {α : Type} (cell : Cell α) (resolve : Resolver α) (below : Branches α)
    (other : Sight α) : Cell α :=
  { cell with
    token := resolve ⟨cell.entry, [], below⟩ other
    terminal := cell.terminal.either other.terminal }

namespace Forest
variable {α : Type}

/-! ### Checks -/

def Changeable (forest : Forest α) (nodes : List Nat) : Prop :=
  ∀ node ∈ nodes, ∀ cell, forest.cell? node = some cell → cell.frozen = false

theorem Changeable.mono {forest : Forest α} {nodes more : List Nat}
    (changeable : forest.Changeable nodes) (covered : more ⊆ nodes) : forest.Changeable more :=
  fun node member => changeable node (covered member)

theorem Changeable.grow {touched nodes more : List Nat} {before after : Forest α}
    (changeable : before.Changeable nodes) (grows : Grows touched before after)
    (covered : ∀ node ∈ more, node ∈ nodes ∨ before.cells.size ≤ node) :
    after.Changeable more := by
  intro node member cell there
  by_cases beyond : before.cells.size ≤ node
  · exact grows.changeable node cell beyond there
  · obtain ⟨earlier, known⟩ := exists_cell_of_lt (Nat.not_le.1 beyond)
    obtain ⟨later, found, -, -, frozen⟩ := grows.kept node earlier known
    obtain rfl := Option.some.inj (there.symm.trans found)
    rw [frozen, changeable node ((covered node member).resolve_right beyond) earlier known]

section
variable {forest : Forest α} {node parent : Nat} {symbol : Symbol}

theorem changeable_single_iff :
    forest.Changeable [node] ↔ (forest.cell? node).any (·.frozen) = false := by
  cases there : forest.cell? node <;> simp [Changeable, there]

theorem run_checkMutable_of_changeable (changeable : forest.Changeable [node]) :
    Steps.run (checkMutable node) forest = (.ok (), forest) := by
  simp [checkMutable, Steps.run_bind, changeable_single_iff.1 changeable]

theorem run_checkMutable_of_frozen {cell : Cell α} (there : forest.cell? node = some cell)
    (frozen : cell.frozen = true) :
    Steps.run (checkMutable node) forest = (.error (.frozenNode (forest.path node)), forest) := by
  simp [checkMutable, Steps.run_bind, there, frozen]

theorem checkMutable_cases (node : Nat) (forest : Forest α) :
    (¬ forest.Changeable [node] ∧ Steps.run (checkMutable node) forest =
      (.error (.frozenNode (forest.path node)), forest)) ∨
      (forest.Changeable [node] ∧ Steps.run (checkMutable node) forest = (.ok (), forest)) := by
  by_cases changeable : forest.Changeable [node]
  · exact .inr ⟨changeable, run_checkMutable_of_changeable changeable⟩
  · obtain ⟨cell, there, frozen⟩ : ∃ cell, forest.cell? node = some cell ∧ cell.frozen = true := by
      simpa [Changeable] using changeable
    exact .inl ⟨changeable, run_checkMutable_of_frozen there frozen⟩

theorem run_checkMutable_cases (node : Nat) (forest : Forest α) :
    ∃ outcome, Steps.run (checkMutable node) forest = (outcome, forest) := by
  rcases checkMutable_cases node forest with ⟨-, fails⟩ | ⟨-, passes⟩
  · exact ⟨_, fails⟩
  · exact ⟨_, passes⟩

theorem run_checkFree (free : forest.child? node symbol = none) :
    Steps.run (checkFree node symbol) forest = (.ok (), forest) := by
  simp [checkFree, Steps.run_bind, free]

theorem run_checkFree_cases (parent : Nat) (symbol : Symbol) (forest : Forest α) :
    (∃ failure, Steps.run (checkFree parent symbol) forest = (.error failure, forest)) ∨
      (forest.child? parent symbol = none ∧
        Steps.run (checkFree parent symbol) forest = (.ok (), forest)) := by
  cases known : forest.child? parent symbol with
  | some child => exact .inl ⟨_, by simp [checkFree, Steps.run_bind, known]; rfl⟩
  | none => exact .inr ⟨rfl, run_checkFree known⟩

theorem run_add (changeable : forest.Changeable [node]) (free : forest.child? node symbol = none)
    (entry : Entry α) :
    Steps.run (add node symbol entry) forest = Steps.run (growChild node symbol entry) forest := by
  rw [add, Steps.run_bind_of_ok (run_checkMutable_of_changeable changeable),
    Steps.run_bind_of_ok (run_checkFree free)]

theorem run_add_cases (parent : Nat) (symbol : Symbol) (entry : Entry α) (forest : Forest α) :
    (∃ failure, Steps.run (add parent symbol entry) forest = (.error failure, forest)) ∨
      (forest.child? parent symbol = none ∧
        Steps.run (add parent symbol entry) forest =
          Steps.run (growChild parent symbol entry) forest) := by
  rw [add, Steps.run_bind]
  rcases checkMutable_cases parent forest with ⟨-, fails⟩ | ⟨-, passes⟩
  · exact .inl ⟨_, by rw [fails]⟩
  · simp only [passes, Steps.run_bind]
    rcases run_checkFree_cases parent symbol forest with ⟨failure, fails⟩ | ⟨free, passes⟩
    · exact .inl ⟨failure, by rw [fails]⟩
    · exact .inr ⟨free, by rw [passes]⟩

theorem run_meet_cases (resolve : Resolver α) (node : Nat) (other : Sight α)
    (forest : Forest α) :
    (¬ forest.Changeable [node] ∧ Steps.run (meet resolve node other) forest =
      (.error (.frozenNode (forest.path node)), forest)) ∨
      (forest.Changeable [node] ∧ ∃ after,
        Steps.run (meet resolve node other) forest = (.ok (), after) ∧
        after.cells.size = forest.cells.size ∧
        (∀ cell, forest.cell? node = some cell → after.cell? node =
          some (cell.met resolve (forest.branches forest.cells.size node) other)) ∧
        Grows [node] forest after) := by
  rw [meet, Steps.run_bind]
  rcases checkMutable_cases node forest with ⟨frozen, fails⟩ | ⟨changeable, passes⟩
  · exact .inl ⟨frozen, by rw [fails]⟩
  · simp only [passes]
    refine .inr ⟨changeable, ⟨forest.cells.modify node (·.met resolve _ other)⟩, rfl, by simp,
      fun cell there => ?_, .modify forest node _ fun _ => ⟨rfl, rfl, rfl⟩⟩
    simp [cell?_modify, there]

end

/-! ### Branches laid over those below a node -/

/--
Branches were laid over those below a node. Its tree has another layout then, whose nodes are those
it had and new ones, and nothing but this tree was touched.
-/
structure Laid (resolve : Resolver α) (target : Nat) (layout : Layout α) (others : Branches α)
    (before after : Forest α) (laid : Layout α) : Prop where
  branches : laid.branches = layout.branches.merge resolve others
  stands : after.Stands target laid
  top : ∀ cell, before.cell? target = some cell →
    after.cell? target = some { cell with children := laid.links }
  nodes : ∀ node ∈ laid.nodes, node ∈ layout.nodes ∨ before.cells.size ≤ node
  grows : Grows (target :: layout.nodes) before after

variable {resolve : Resolver α} {target : Nat} {layout middle laid : Layout α}
  {before between after : Forest α}

theorem Stands.meet (stands : before.Stands target layout) {cell later : Cell α}
    (there : before.cell? target = some cell) (written : after.cell? target = some later)
    (children : later.children = cell.children) (grows : Grows [target] before after) :
    after.Stands target layout := by
  obtain ⟨found, known, linked⟩ := stands.top
  obtain rfl := Option.some.inj (known.symm.trans there)
  have apart := (List.nodup_cons.1 stands.apart).1
  refine { stands with
    top := ⟨later, written, children.trans linked⟩
    holds := stands.holds.congr fun node member =>
      grows.same node (stands.holds.lt_size node member) fun touched => ?_ }
  exact apart (List.mem_singleton.1 touched ▸ member)

theorem Laid.refl (stands : before.Stands target layout) :
    Laid resolve target layout .nil before before layout where
  branches := (Branches.merge_nil resolve _).symm
  stands := stands
  top := fun cell there => by
    obtain ⟨found, known, children⟩ := stands.top
    obtain rfl := Option.some.inj (known.symm.trans there)
    rw [← children, there]
  nodes := fun _ member => .inl member
  grows := .refl _ _

theorem Laid.covered {others : Branches α}
    (laid : Laid resolve target layout others before after middle) :
    ∀ node ∈ target :: middle.nodes, node ∈ target :: layout.nodes ∨ before.cells.size ≤ node :=
  fun node member => by
    rcases List.mem_cons.1 member with rfl | member
    · exact .inl List.mem_cons_self
    · exact (laid.nodes node member).imp_left (List.mem_cons_of_mem _)

theorem Laid.changeable {others : Branches α}
    (laid : Laid resolve target layout others before after middle)
    (changeable : before.Changeable (target :: layout.nodes)) :
    after.Changeable (target :: middle.nodes) :=
  changeable.grow laid.grows laid.covered

theorem Laid.trans {symbol : Symbol} {entry : Entry α} {below rest : Branches α}
    (fresh : symbol ∉ rest.keys)
    (first : Laid resolve target layout (.cons symbol entry below .nil) before between middle)
    (second : Laid resolve target middle rest between after laid) :
    Laid resolve target layout (.cons symbol entry below rest) before after laid where
  branches := by rw [second.branches, first.branches, ← Branches.merge_cons _ _ _ _ fresh]
  stands := second.stands
  top := fun cell there => by
    have later := first.top cell there
    exact second.top { cell with children := middle.links } later
  nodes := fun node member => by
    rcases second.nodes node member with member | beyond
    · exact first.nodes node member
    · exact .inr (Nat.le_trans first.grows.size beyond)
  grows := first.grows.trans second.grows first.covered

theorem nodup_replace (bound : Nat) {front back other : List Nat} (part : List Nat)
    (apart : (front ++ (part ++ back)).Nodup) (inside : ∀ node ∈ front ++ back, node < bound)
    (otherApart : other.Nodup) (placed : ∀ node ∈ other, node ∈ part ∨ bound ≤ node) :
    (front ++ (other ++ back)).Nodup := by
  obtain ⟨frontApart, innerApart, frontFree⟩ := List.nodup_append.1 apart
  obtain ⟨-, backApart, partFree⟩ := List.nodup_append.1 innerApart
  refine List.nodup_append.2 ⟨frontApart, List.nodup_append.2 ⟨otherApart, backApart, ?_⟩, ?_⟩
  · rintro node member _ behind rfl
    rcases placed node member with old | new
    · exact partFree node old node behind rfl
    · exact absurd (inside node (by simp [behind])) (Nat.not_lt.2 new)
  · rintro node before _ member rfl
    rcases List.mem_append.1 member with member | behind
    · rcases placed node member with old | new
      · exact frontFree node before node (by simp [old]) rfl
      · exact absurd (inside node (by simp [before])) (Nat.not_lt.2 new)
    · exact frontFree node before node (by simp [behind]) rfl

theorem Laid.of_holds {symbol : Symbol} {entry : Entry α} {below : Branches α}
    (stands : before.Stands target layout) (distinct : below.Distinct)
    (branches : laid.branches = layout.branches.merge resolve (.cons symbol entry below .nil))
    (top : ∀ cell, before.cell? target = some cell →
      after.cell? target = some { cell with children := laid.links })
    (holds : after.Holds target laid) (apart : (target :: laid.nodes).Nodup)
    (nodes : ∀ node ∈ laid.nodes, node ∈ layout.nodes ∨ before.cells.size ≤ node)
    (grows : Grows (target :: layout.nodes) before after) :
    Laid resolve target layout (.cons symbol entry below .nil) before after laid := by
  obtain ⟨cell, there, -⟩ := stands.top
  have single : (Branches.cons symbol entry below .nil).Distinct :=
    ⟨by simp [Branches.keys], distinct, trivial⟩
  exact ⟨branches, ⟨⟨_, top cell there, rfl⟩, holds, apart,
    branches ▸ stands.distinct.merge single resolve⟩, top, nodes, grows⟩

theorem exists_laid_of_add (stands : before.Stands target layout) {symbol : Symbol}
    {entry : Entry α} {below : Branches α} (distinct : below.Distinct)
    (ran : Steps.run (do sow (← add target symbol entry) below) before = (.ok (), after)) :
    ∃ laid, Laid resolve target layout (.cons symbol entry below .nil) before after laid := by
  obtain ⟨cell, there, children⟩ := stands.top
  rcases run_add_cases target symbol entry before with ⟨failure, fails⟩ | ⟨free, added⟩
  · rw [Steps.run_bind, fails] at ran
    cases ran
  have unlinked : symbol ∉ layout.branches.keys :=
    Layout.notMem_keys_of_lookup (stands.child?_eq symbol ▸ free)
  have bound := stands.lt_size
  obtain ⟨here, inside⟩ := List.forall_mem_cons.1 bound
  obtain ⟨between, grew, size, child, top, grows⟩ := run_growChild there symbol entry
  obtain ⟨last, under, sowed, rfl, sown⟩ := run_sow below child
  rw [Steps.run_bind_of_ok (added.trans grew), sowed] at ran
  obtain ⟨-, rfl⟩ := Prod.mk.inj ran
  have merged : (layout.append (.cons symbol before.cells.size entry under .nil)).branches =
      layout.branches.merge resolve (.cons symbol entry under.branches .nil) := by
    rw [Layout.branches_append_single, Branches.merge_single_of_notMem _ unlinked]
  have new : ∀ node ∈ under.nodes, before.cells.size < node := fun node member => by
    have beyond := sown.fresh node member
    omega
  -- cells that were there before hold what they held, but for the target's children
  have kept : ∀ node < before.cells.size, last.cell? node = between.cell? node :=
    fun node inside => sown.grows.same node (by omega) (by simp; omega)
  refine ⟨_, .of_holds stands distinct merged ?_ ?_ ?_ ?_ ?_⟩
  · intro found known
    obtain rfl := Option.some.inj (there.symm.trans known)
    rw [kept target here, top, children]
    simp [Layout.links]
  · refine Holds.append_iff.2 ⟨stands.holds.congr fun node member => ?_, ?_⟩
    · have apart : node ≠ target := fun same =>
        (List.nodup_cons.1 stands.apart).1 (same ▸ member)
      rw [kept node (inside node member),
        grows.same node (inside node member) (by simpa using apart)]
    · exact ⟨⟨false, by simpa using sown.top⟩, sown.holds, trivial⟩
  · have apart : ((target :: layout.nodes) ++ ((before.cells.size :: under.nodes) ++ [])).Nodup :=
      nodup_replace before.cells.size [] (by simpa using stands.apart) (by simpa using bound)
        (List.nodup_cons.2 ⟨fun member => Nat.lt_irrefl _ (new _ member), sown.apart⟩)
        fun node member => .inr <| by
          rcases List.mem_cons.1 member with rfl | member
          · exact Nat.le_refl _
          · exact Nat.le_of_lt (new node member)
    simpa [Layout.nodes] using apart
  · intro node member
    simp only [Layout.nodes_append, Layout.nodes, List.append_nil, List.mem_append,
      List.mem_cons] at member
    rcases member with old | rfl | later
    · exact .inl old
    · exact .inr (Nat.le_refl _)
    · exact .inr (Nat.le_of_lt (new node later))
  · have grown : Grows [target] before last := grows.trans sown.grows fun node member =>
      .inr (Nat.le_of_eq (List.mem_singleton.1 member).symm)
    exact grown.weaken (by simp)

section
variable {symbol : Symbol} {child : Nat} {front back below under : Layout α}
  {entry other : Entry α} {others : Branches α}
  (stands : before.Stands target (front.append (.cons symbol child entry below back)))
include stands

theorem Stands.same_beside (grows : Grows (child :: below.nodes) before after) :
    ∀ node ∈ (target :: front.nodes) ++ back.nodes,
      node < before.cells.size ∧ after.cell? node = before.cell? node := by
  intro node beside
  obtain ⟨-, innerApart, frontFree⟩ := List.nodup_append.1 stands.apart_child
  obtain ⟨-, -, partFree⟩ := List.nodup_append.1 innerApart
  have inside : node < before.cells.size := stands.lt_size node (by
    simp only [List.cons_append, List.mem_cons, List.mem_append, Layout.nodes_append,
      Layout.nodes] at beside ⊢
    tauto)
  refine ⟨inside, grows.same node inside fun touched => ?_⟩
  rcases List.mem_append.1 beside with ahead | behind
  · exact frontFree node ahead node (List.mem_append_left _ touched) rfl
  · exact partFree node touched node behind rfl

theorem Laid.meet (fresh : symbol ∉ front.links.map Prod.fst) (distinct : others.Distinct)
    (size : between.cells.size = before.cells.size)
    (met : ∀ cell, before.cell? child = some cell → between.cell? child =
      some (cell.met (resolve.beneath [symbol] [symbol]) below.branches ⟨other, [], others⟩))
    (grows : Grows [child] before between)
    (laid : Laid (resolve.beneath [symbol] [symbol]) child below others between after under) :
    ∃ laid, Laid resolve target (front.append (.cons symbol child entry below back))
      (.cons symbol other others .nil) before after laid := by
  obtain ⟨inFront, ⟨frozen, there⟩, -, inBack⟩ := Holds.append_iff.1 stands.holds
  have grown : Grows (child :: below.nodes) before after :=
    (grows.weaken (by simp)).trans laid.grows fun node member => .inl member
  have beside := stands.same_beside grown
  have covered : ∀ node ∈ child :: under.nodes,
      node ∈ child :: below.nodes ∨ before.cells.size ≤ node := size ▸ laid.covered
  refine ⟨_, .of_holds stands distinct (Layout.merge_branches_append fresh laid.branches)
    ?_ ?_ ?_ ?_ ?_⟩
  · intro cell here
    obtain ⟨found, known, children⟩ := stands.top
    obtain rfl := Option.some.inj (known.symm.trans here)
    have linked : found.children = front.links ++ (symbol, child) :: back.links := by
      simpa [Layout.links] using children
    rw [(beside target (by simp)).2, here, Layout.links_append, Layout.links, ← linked]
  · exact Holds.append_iff.2 ⟨inFront.congr fun node member => (beside node (by simp [member])).2,
      ⟨frozen, laid.top _ (met _ there)⟩, laid.stands.holds,
      inBack.congr fun node member => (beside node (by simp [member])).2⟩
  · have replaced := nodup_replace before.cells.size (child :: below.nodes) stands.apart_child
      (fun node member => (beside node member).1) laid.stands.apart covered
    simpa [Layout.nodes] using replaced
  · intro node member
    have part := covered node
    simp only [Layout.nodes_append, Layout.nodes, List.mem_append, List.mem_cons] at member part ⊢
    tauto
  · refine grown.weaken fun node member => ?_
    simp only [Layout.nodes_append, Layout.nodes, List.mem_append, List.mem_cons] at member ⊢
    tauto

end

def mergeBranch (resolve : Resolver α) (target : NodeId) (symbol : Symbol) (entry : Entry α)
    (below : Branches α) : ForestM α Unit := do
  match (← get).child? target symbol with
  | none => sow (← add target symbol entry) below
  | some child =>
      let inner := resolve.beneath [symbol] [symbol]
      meet inner child ⟨entry, [], below⟩
      mergeBelow inner child below

theorem run_mergeBelow_cons (resolve : Resolver α) (target : NodeId) (symbol : Symbol)
    (entry : Entry α) (below rest : Branches α) (forest : Forest α) :
    Steps.run (mergeBelow resolve target (.cons symbol entry below rest)) forest =
      Steps.run (do
        mergeBranch resolve target symbol entry below
        mergeBelow resolve target rest) forest := by
  rw [mergeBelow, mergeBranch, bind_assoc, Steps.run_bind_of_ok (Steps.run_get forest),
    Steps.run_bind_of_ok (Steps.run_get forest)]
  cases forest.child? target symbol <;> simp [bind_assoc]

/--
A sibling was laid over the others, if what is laid over the child that it meets is laid over the
branches below that child.
-/
theorem exists_laid_of_branch {below : Branches α}
    (recur : ∀ {before after : Forest α} {child : Nat} {layout : Layout α} {inner : Resolver α},
      before.Stands child layout →
        Steps.run (mergeBelow inner child below) before = (.ok (), after) →
          ∃ laid, Laid inner child layout below before after laid)
    (stands : before.Stands target layout) {symbol : Symbol} {entry : Entry α}
    (distinct : below.Distinct)
    (ran : Steps.run (mergeBranch resolve target symbol entry below) before = (.ok (), after)) :
    ∃ laid, Laid resolve target layout (.cons symbol entry below .nil) before after laid := by
  rw [mergeBranch, Steps.run_bind_of_ok (Steps.run_get before)] at ran
  cases known : before.child? target symbol with
  | none =>
      rw [known] at ran
      exact exists_laid_of_add stands distinct ran
  | some child =>
      rw [known] at ran
      rw [stands.child?_eq] at known
      obtain ⟨front, own, beneath, back, rfl, fresh⟩ := Layout.exists_split known
      have descended := (stands.descend fresh).2
      obtain ⟨cell, there, children⟩ := descended.top
      obtain ⟨_, between, metRan, laidRan⟩ := Steps.run_bind_eq_ok.1 ran
      rcases run_meet_cases (resolve.beneath [symbol] [symbol]) child ⟨entry, [], below⟩ before with
        ⟨-, fails⟩ | ⟨-, same, metRanToo, size, met, grows⟩
      · cases metRan.symm.trans fails
      obtain ⟨-, rfl⟩ := Prod.mk.inj (metRan.symm.trans metRanToo)
      obtain ⟨under, laid⟩ := recur (descended.meet there (met cell there) rfl grows) laidRan
      exact laid.meet stands fresh distinct size (descended.branches_eq ▸ met) grows

theorem exists_laid (others : Branches α) (stands : before.Stands target layout)
    (distinct : others.Distinct)
    (ran : Steps.run (mergeBelow resolve target others) before = (.ok (), after)) :
    ∃ laid, Laid resolve target layout others before after laid := by
  -- by induction on what is laid over: first below one child, then among its later siblings
  induction others generalizing before after target layout resolve with
  | nil =>
      obtain ⟨-, rfl⟩ := Prod.mk.inj ran
      exact ⟨layout, .refl stands⟩
  | cons symbol entry below rest belowHyp restHyp =>
      obtain ⟨fresh, inner, later⟩ := distinct
      rw [run_mergeBelow_cons] at ran
      obtain ⟨_, between, ran, restRan⟩ := Steps.run_bind_eq_ok.1 ran
      obtain ⟨middle, first⟩ := exists_laid_of_branch
        (fun stands ran => belowHyp stands inner ran) stands inner ran
      obtain ⟨laid, second⟩ := restHyp first.stands later restRan
      exact ⟨laid, first.trans fresh second⟩

theorem Stands.succeeds_mergeBranch {below : Branches α}
    (recur : ∀ {before : Forest α} {child : Nat} {layout : Layout α} (inner : Resolver α),
      before.Stands child layout → before.Changeable (child :: layout.nodes) →
        Steps.Succeeds (mergeBelow inner child below) before)
    (stands : before.Stands target layout) (changeable : before.Changeable (target :: layout.nodes))
    (resolve : Resolver α) (symbol : Symbol) (entry : Entry α) :
    Steps.Succeeds (mergeBranch resolve target symbol entry below) before := by
  refine .read ?_
  cases known : before.child? target symbol with
  | none =>
      obtain ⟨cell, there, -⟩ := stands.top
      have added := run_add (changeable.mono (by simp)) known entry
      obtain ⟨grown, ran, -, child, -⟩ := run_growChild there symbol entry
      obtain ⟨sown, -, sowed, -⟩ := run_sow below child
      exact ⟨(), sown, (Steps.run_bind_of_ok (added.trans ran)).trans sowed⟩
  | some child =>
      rw [stands.child?_eq] at known
      obtain ⟨front, own, beneath, back, rfl, fresh⟩ := Layout.exists_split known
      have descended := (stands.descend fresh).2
      obtain ⟨cell, there, -⟩ := descended.top
      have free : before.Changeable (child :: beneath.nodes) := changeable.mono fun node member => by
        simp only [List.mem_cons, Layout.nodes_append, Layout.nodes, List.mem_append] at member ⊢
        tauto
      rcases run_meet_cases (resolve.beneath [symbol] [symbol]) child ⟨entry, [], below⟩ before with
        ⟨frozen, -⟩ | ⟨-, between, ran, -, met, grows⟩
      · exact absurd (free.mono (by simp)) frozen
      · obtain ⟨value, after, laid⟩ := recur (resolve.beneath [symbol] [symbol])
          (descended.meet there (met cell there) rfl grows)
          (free.grow grows fun node member => .inl member)
        exact ⟨value, after, (Steps.run_bind_of_ok ran).trans laid⟩

theorem Stands.succeeds_mergeBelow (stands : before.Stands target layout)
    (changeable : before.Changeable (target :: layout.nodes)) (resolve : Resolver α)
    {others : Branches α} (distinct : others.Distinct) :
    Steps.Succeeds (mergeBelow resolve target others) before := by
  induction others generalizing before target layout resolve with
  | nil => exact ⟨(), before, rfl⟩
  | cons symbol entry below rest belowHyp restHyp =>
      obtain ⟨fresh, inner, later⟩ := distinct
      have branch := stands.succeeds_mergeBranch
        (fun resolve stands changeable => belowHyp stands changeable resolve inner) changeable
        resolve symbol entry
      obtain ⟨value, after, ran⟩ := branch.bind fun _ between ran => by
        obtain ⟨middle, first⟩ := exists_laid_of_branch
          (fun stands ran => exists_laid _ stands inner ran) stands inner ran
        exact restHyp first.stands (first.changeable changeable) resolve later
      exact ⟨value, after, (run_mergeBelow_cons ..).trans ran⟩

/-! ### Nodes laid over one another -/

section
variable {source : Nat} {own other : Node α}

theorem Stands.exists_merged (stands : before.Stands target layout)
    (read : before.tree? target = some own) (readToo : before.tree? source = some other)
    (ran : Steps.run (merge resolve target source) before = (.ok (), after)) :
    ∃ laid, after.Stands target laid ∧
      after.tree? target =
        some (own.merge (resolve.beneath (before.path target) (before.path source)) other) ∧
      Grows (target :: layout.nodes) before after ∧
      ∀ node ∈ target :: laid.nodes, node ∈ target :: layout.nodes ∨ before.cells.size ≤ node := by
  obtain ⟨cell, there, children⟩ := stands.top
  rw [merge, Steps.run_bind_of_ok (Steps.run_get before), readToo] at ran
  obtain ⟨_, between, metRan, laidRan⟩ := Steps.run_bind_eq_ok.1 ran
  rcases run_meet_cases (resolve.beneath (before.path target) (before.path source)) target
    other.sight before with ⟨-, fails⟩ | ⟨-, same, metRanToo, size, met, grows⟩
  · cases metRan.symm.trans fails
  obtain ⟨-, rfl⟩ := Prod.mk.inj (metRan.symm.trans metRanToo)
  obtain ⟨laid, result⟩ := exists_laid other.below (stands.meet there (met cell there) rfl grows)
    other.distinct laidRan
  obtain rfl := Option.some.inj (read.symm.trans (stands.tree?_eq there))
  refine ⟨laid, result.stands, ?_, ?_, fun node member => size ▸ result.covered node member⟩
  · rw [result.stands.tree?_eq (result.top _ (met cell there))]
    simp [Node.merge, Node.sight, result.branches, Cell.met, Cell.entry, stands.branches_eq]
  · exact (grows.weaken (by simp)).trans result.grows fun member inside => .inl inside

theorem Stands.succeeds_merge (stands : before.Stands target layout)
    (changeable : before.Changeable (target :: layout.nodes)) (resolve : Resolver α)
    (source : Nat) : Steps.Succeeds (merge resolve target source) before := by
  refine .read ?_
  cases before.tree? source with
  | none => exact ⟨(), before, rfl⟩
  | some other =>
      obtain ⟨cell, there, -⟩ := stands.top
      rcases run_meet_cases (resolve.beneath (before.path target) (before.path source)) target
        other.sight before with ⟨frozen, -⟩ | ⟨-, between, ran, -, met, grows⟩
      · exact absurd (changeable.mono (by simp)) frozen
      · obtain ⟨value, after, laid⟩ := (stands.meet there (met cell there) rfl
          grows).succeeds_mergeBelow (changeable.grow grows fun member inside => .inl inside)
          (resolve.beneath (before.path target) (before.path source)) other.distinct
        exact ⟨value, after, (Steps.run_bind_of_ok ran).trans laid⟩

end

end Forest
end Honji
