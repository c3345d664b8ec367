import Honji.Proofs.Forest.Tours

/-!
Walks that replace tokens. A walk down to a depth replaces the token of each node that it comes to,
once, by a function of its path and of the token it had; so the order of the walk does not matter
for what it leaves.
-/

namespace Honji
namespace Forest
variable {α : Type} {before after forest : Forest α} {node top : Nat} {change : Path → α → α}

theorem ext (same : ∀ node, after.cell? node = before.cell? node) : after = before := by
  obtain ⟨cells⟩ := after
  obtain ⟨earlier⟩ := before
  exact congrArg Forest.mk (Array.ext_getElem? same)

def relabelled (forest : Forest α) (change : Path → α → α) (nodes : List Nat) : Forest α :=
  ⟨forest.cells.mapIdx fun node cell =>
    if node ∈ nodes then { cell with token := change (forest.path node) cell.token } else cell⟩

theorem cell?_relabelled (forest : Forest α) (change : Path → α → α) (nodes : List Nat)
    (node : Nat) : (forest.relabelled change nodes).cell? node = (forest.cell? node).map fun cell =>
      if node ∈ nodes then { cell with token := change (forest.path node) cell.token }
      else cell := by
  simp [cell?, relabelled, Array.getElem?_mapIdx]

theorem path_relabelled (forest : Forest α) (change : Path → α → α) (nodes : List Nat)
    (node : Nat) : (forest.relabelled change nodes).path node = forest.path node := by
  refine path_congr (fun _ _ _ _ => trivial) (fun other _ => ?_) trivial
  rw [cell?_relabelled, Option.map_map]
  refine congrArg (Option.map · (forest.cell? other)) (funext fun cell => ?_)
  rw [Function.comp_apply]
  split <;> rfl

theorem visit?_relabelled {nodes : List Nat} (off : node ∉ nodes) :
    (forest.relabelled change nodes).visit? node = forest.visit? node := by
  rw [visit?, visit?, path_relabelled, cell?_relabelled, Option.map_map]
  simp only [off, if_false, Function.comp_def]

theorem relabelled_cons {nodes : List Nat} (fresh : node ∉ nodes) :
    (forest.relabelled change [node]).relabelled change nodes =
      forest.relabelled change (node :: nodes) := by
  refine ext fun other => ?_
  rw [cell?_relabelled, cell?_relabelled, cell?_relabelled, Option.map_map, path_relabelled]
  refine congrArg (Option.map · (forest.cell? other)) (funext fun cell => ?_)
  by_cases same : other = node
  · subst same
    simp [fresh]
  · simp [same]

theorem relabelled_congr {nodes more : List Nat} (same : ∀ node, node ∈ nodes ↔ node ∈ more) :
    forest.relabelled change nodes = forest.relabelled change more :=
  ext fun node => by simp only [cell?_relabelled, same]

theorem Changeable.relabelled {nodes more : List Nat} (changeable : forest.Changeable nodes) :
    (forest.relabelled change more).Changeable nodes := by
  intro node member cell there
  rw [cell?_relabelled] at there
  obtain ⟨earlier, known, rfl⟩ := Option.map_eq_some_iff.1 there
  split
  · exact changeable node member earlier known
  · exact changeable node member earlier known

theorem run_relabel (changeable : forest.Changeable [node]) :
    Steps.run (Visitor.relabel change node) forest =
      (.ok (), forest.relabelled change [node]) := by
  rw [Visitor.relabel, Steps.run_bind_of_ok (Steps.run_get forest)]
  cases there : forest.cell? node with
  | none =>
      refine Prod.ext rfl (ext fun other => ?_)
      rw [cell?_relabelled]
      by_cases same : other = node
      · subst same
        rw [there, Option.map_none]
        exact there
      · simp [same]
  | some cell =>
      simp only [setToken]
      rw [Steps.run_bind_of_ok (run_checkMutable_of_changeable changeable)]
      refine Prod.ext rfl (ext fun other => ?_)
      rw [cell?_relabelled]
      refine (cell?_modify forest node _ other).trans ?_
      by_cases same : node = other
      · subst same
        simp [there]
      · simp [same, Ne.symm same]

end Forest

namespace Walk
variable {α : Type} {change : Path → α → α}

theorem run_relabel {nodes : List Nat} (apart : nodes.Nodup) {walk : Walk α}
    (changeable : walk.forest.Changeable nodes) :
    Steps.run (nodes.forM (visit (Visitor.relabel change))) walk =
      (.ok (), ⟨walk.forest.relabelled change nodes,
        walk.visits ++ (nodes.filterMap walk.forest.visit?).toArray⟩) := by
  induction nodes generalizing walk with
  | nil =>
      have none : walk.forest.relabelled change [] = walk.forest :=
        Forest.ext fun other => by simp [Forest.cell?_relabelled]
      simp [none]
  | cons node nodes ih =>
      obtain ⟨fresh, later⟩ := List.nodup_cons.1 apart
      have here : walk.forest.Changeable [node] := fun member inside =>
        changeable member (List.mem_singleton.1 inside ▸ List.mem_cons_self)
      have rest : walk.forest.Changeable nodes := fun member inside =>
        changeable member (List.mem_cons_of_mem node inside)
      have ran : Steps.run (visit (Visitor.relabel change) node) walk =
          (.ok (), ⟨walk.forest.relabelled change [node],
            walk.visits ++ (walk.forest.visit? node).toArray⟩) := by
        rw [run_visit, Forest.run_relabel here]
      have visits : nodes.filterMap (walk.forest.relabelled change [node]).visit? =
          nodes.filterMap walk.forest.visit? :=
        List.filterMap_congr fun member inside =>
          Forest.visit?_relabelled fun same => fresh (List.mem_singleton.1 same ▸ inside)
      rw [List.forM_eq_forM, List.forM_cons, Steps.run_bind_of_ok ran, ← List.forM_eq_forM,
        ih later rest.relabelled, Forest.relabelled_cons fresh]
      simp only [visits]
      cases visited : walk.forest.visit? node with
      | none => simp [visited]
      | some visit => simp [visited]

end Walk

/-! ### Bounded walks -/

namespace VisitOrder

def written : VisitOrder → Datum
  | .pre => .text "pre".toList
  | .post => .text "post".toList

theorem parse_written (order : VisitOrder) : parse order.written = .ok order := by
  cases order <;> rfl

end VisitOrder

namespace Forest
variable {α : Type} {before forest : Forest α} {node top : Nat} {layout : Layout α}

def Reaches (forest : Forest α) (included : Bool) (limit : Option Int) (node other : Nat) : Prop :=
  (included = true ∧ other = node) ∨ ∃ steps : Nat,
    0 < steps ∧ (∀ most ∈ limit, (steps : Int) ≤ most) ∧ forest.LiesBelow steps node other

theorem LiesBelow.within {steps other : Nat} (lies : forest.LiesBelow steps node other) :
    forest.Within node other := by
  induction steps generalizing node with
  | zero =>
      obtain rfl : other = node := lies
      exact .top
  | succ steps ih =>
      obtain ⟨child, stored, below⟩ := lies
      exact (Within.top.step stored).trans (ih below)

theorem Within.exists_line (within : forest.Within top node) (there : top < forest.cells.size)
    (free : forest.Unstored top) : ∃ above, forest.Line (node :: above) := by
  induction within with
  | top => exact ⟨[], .top there free⟩
  | child _ known stored ih =>
      obtain ⟨above, line⟩ := ih
      exact ⟨_, line.down known stored⟩

namespace Stands
variable (stands : forest.Stands node layout)
include stands

theorem mem_tour_iff (order : VisitOrder) (limit : Option Int) (other : Nat) :
    other ∈ layout.tour order (limit.elim forest.cells.size Int.toNat) ↔ ∃ steps : Nat,
      0 < steps ∧ (∀ most ∈ limit, (steps : Int) ≤ most) ∧ forest.LiesBelow steps node other := by
  rw [stands.holds.mem_tour_iff, ← stands.childrenOf_eq]
  constructor
  · rintro ⟨steps, few, child, stored, lies⟩
    refine ⟨steps + 1, Nat.succ_pos _, ?_, child, stored, lies⟩
    rintro most ⟨⟩
    simp only [Option.elim_some] at few
    omega
  · rintro ⟨_ | steps, positive, few, lies⟩
    · omega
    obtain ⟨child, stored, below⟩ := lies
    cases limit with
    | some most =>
        have enough := few most rfl
        exact ⟨steps, by simp only [Option.elim_some]; omega, child, stored, below⟩
    | none =>
        -- without a limit the walk goes deeper than the tree is
        have inside : other ∈ layout.nodes :=
          stands.holds.mem_of_within (layout.mem_nodes_of_stored child
            (stands.childrenOf_eq ▸ stored)) below.within
        rw [← Layout.tour_eq_nodes (Nat.le_of_lt stands.height_lt_size),
          stands.holds.mem_tour_iff, ← stands.childrenOf_eq] at inside
        exact inside

theorem mem_passage_iff (order : VisitOrder) (limit : Option Int) (included : Bool)
    (other : Nat) :
    other ∈ layout.passage order (limit.elim forest.cells.size Int.toNat) included node ↔
      forest.Reaches included limit node other := by
  rw [Reaches, ← stands.mem_tour_iff order]
  cases included
  · simp [Layout.passage]
  · simp [Layout.passage, (order.around_perm node _).mem_iff]

theorem nodup_passage (order : VisitOrder) (depth : Nat) (included : Bool) :
    (layout.passage order depth included node).Nodup := by
  have toured : (layout.tour order depth).Nodup := (layout.tour_perm order depth).nodup_iff.2
    ((List.nodup_cons.1 stands.apart).2.sublist (layout.tour_sublist depth))
  rw [Layout.passage]
  split
  · refine (order.around_perm node _).nodup_iff.2 (List.nodup_cons.2 ⟨fun member => ?_, toured⟩)
    exact (List.nodup_cons.1 stands.apart).1 (Layout.mem_nodes_of_tour member)
  · exact toured

theorem passage_ordered (order : VisitOrder) (depth : Nat) (included : Bool) :
    (layout.passage order depth included node).Pairwise (forest.Ordered order) := by
  obtain ⟨fresh, apart⟩ := List.nodup_cons.1 stands.apart
  have toured := stands.holds.tour_ordered apart order depth
  rw [Layout.passage]
  split
  · exact stands.holds.around_ordered fresh order depth toured
  · exact toured

end Stands

/--
A walk visited the nodes that it reaches, each once and in order, as they were before; and these
nodes, and no others, have a new token each. Nothing else was changed.
-/
structure Swept (before : Forest α) (order : VisitOrder) (change : Path → α → α)
    (reached : Nat → Prop) (visits : List (Visit α)) (after : Forest α) : Prop where
  visited : ∀ node : Nat, node ∈ visits.map (·.node) ↔ reached node
  once : (visits.map (·.node)).Nodup
  ordered : (visits.map (·.node)).Pairwise (before.Ordered order)
  noted : ∀ visit ∈ visits, before.visit? visit.node = some visit
  replaced : ∀ node : Nat, reached node → after.cell? node = (before.cell? node).map fun cell =>
    { cell with token := change (before.path node) cell.token }
  kept : ∀ node : Nat, ¬ reached node → after.cell? node = before.cell? node

def Sweeps (forest : Forest α) (node : Nat) (limit : Option Int) (included : Bool)
    (change : Path → α → α) : Prop :=
  ∃ after, ∀ order : VisitOrder, ∃ visits,
    forest.Swept order change (forest.Reaches included limit node) visits after ∧
      ∀ seen, Steps.run
        (Walk.run (Visitor.relabel change) order.written limit included node) ⟨forest, seen⟩ =
          (.ok (), ⟨after, seen ++ visits.toArray⟩)

theorem swept_relabelled {nodes : List Nat} {order : VisitOrder} {reached : Nat → Prop}
    (change : Path → α → α) (members : ∀ node, node ∈ nodes ↔ reached node) (once : nodes.Nodup)
    (there : ∀ node ∈ nodes, ∃ cell, before.cell? node = some cell)
    (ordered : nodes.Pairwise (before.Ordered order)) :
    before.Swept order change reached (nodes.filterMap before.visit?)
      (before.relabelled change nodes) := by
  have same := map_visits there
  refine ⟨by rwa [same], by rwa [same], by rwa [same], visit?_of_mem, ?_, ?_⟩
  · intro node reached
    simp only [cell?_relabelled, (members node).2 reached, if_true]
  · intro node missed
    simp [cell?_relabelled, mt (members node).1 missed]

theorem Owned.sweeps (owned : forest.Owned) (there : top < forest.cells.size)
    (free : forest.Unstored top) (within : forest.Within top node)
    (unfrozen : ∀ other, forest.Within node other →
      ∀ cell, forest.cell? other = some cell → cell.frozen = false)
    (limit : Option Int) (included : Bool) (change : Path → α → α) :
    forest.Sweeps node limit included change := by
  obtain ⟨above, line⟩ := within.exists_line there free
  obtain ⟨layout, stands, -⟩ := owned.exists_stands_of_line forest.cells.size line (by omega)
  let depth := limit.elim forest.cells.size Int.toNat
  refine ⟨forest.relabelled change (layout.passage .pre depth included node), fun order => ?_⟩
  have members := stands.mem_passage_iff order limit included
  have same : forest.relabelled change (layout.passage .pre depth included node) =
      forest.relabelled change (layout.passage order depth included node) :=
    relabelled_congr fun other =>
      (stands.mem_passage_iff .pre limit included other).trans (members other).symm
  have inside := layout.passage_subset order depth included node
  have changeable : forest.Changeable (layout.passage order depth included node) :=
    fun other passed => unfrozen other (stands.within_iff.2 (inside passed))
  have apart := stands.nodup_passage order depth included
  rw [same]
  refine ⟨_, swept_relabelled change members apart
    (fun _ passed => stands.exists_cell (inside passed))
    (stands.passage_ordered order depth included), fun seen => ?_⟩
  rw [Walk.run_run (Walk.orderly_relabel change) order.parse_written limit included node owned,
    Walk.same_of_stands (Walk.gentle_relabel change) stands order depth included ⟨forest, seen⟩
      fun _ => rfl]
  exact Walk.run_relabel apart changeable

end Forest

namespace Woods
variable {α : Type} [Token α]

/--
In a tree of nodes that are not frozen, a walk from any node replaces the tokens of just those nodes
that it may reach, and leaves the same forest in either order.
-/
theorem swept_undergoAll {incidents : List (Incident α)}
    (admitted : (bare : Woods α).AdmitsAll incidents) {top node : Nat}
    (there : top < (bare.undergoAll incidents).forest.cells.size)
    (free : (bare.undergoAll incidents).forest.Unstored top)
    (within : (bare.undergoAll incidents).forest.Within top node)
    (unfrozen : ∀ other, (bare.undergoAll incidents).forest.Within node other →
      ∀ cell, (bare.undergoAll incidents).forest.cell? other = some cell → cell.frozen = false)
    (limit : Option Int) (included : Bool) (change : Path → α → α) :
    (bare.undergoAll incidents).forest.Sweeps node limit included change :=
  (tended_bare.undergoAll admitted).owned.sweeps there free within unfrozen limit included change

def pruned : List (Incident Text) :=
  [.operation (.createTrie (some false) []),
    .operation (.insert ⟨0, some false, []⟩ (Path.ofText "abc".toList) "ABC".toList),
    .operation (.insert ⟨0, some false, []⟩ (Path.ofText "ad".toList) "AD".toList),
    .operation (.insert ⟨0, some false, []⟩ (Path.ofText "e".toList) "E".toList)]

theorem swept_pruned :
    bare.AdmitsAll pruned ∧ (bare.undergoAll pruned).forest.Within 0 1 ∧
      (bare.undergoAll pruned).forest.Sweeps 1 (some 1) false fun path token =>
        path.joined ++ token := by
  have admitted : bare.AdmitsAll pruned := by decide +kernel
  have there : 0 < (bare.undergoAll pruned).forest.cells.size := by decide +kernel
  have free : (bare.undergoAll pruned).forest.Unstored 0 := by decide +kernel
  have within : (bare.undergoAll pruned).forest.Within 0 1 :=
    Forest.Within.top.step (by decide +kernel)
  have unfrozen : ∀ cell ∈ (bare.undergoAll pruned).forest.cells, cell.frozen = false := by
    decide +kernel
  exact ⟨admitted, within, swept_undergoAll admitted there free within
    (fun _ _ cell known => unfrozen cell (Array.mem_of_getElem? known)) (some 1) false _⟩

end Woods
end Honji
