import Honji.Proofs.Forest.Trails

/-!
Tours of finite trees. A walk through a tree that a visitor does not change comes to a list of nodes
that can be told beforehand: each node down to a depth, once, before or after those below it.
-/

namespace Honji

def VisitOrder.around (order : VisitOrder) (node : Nat) (below : List Nat) : List Nat :=
  match order with
  | .pre => node :: below
  | .post => below ++ [node]

theorem VisitOrder.around_perm (order : VisitOrder) (node : Nat) (below : List Nat) :
    (order.around node below).Perm (node :: below) := by
  cases order
  · exact .refl _
  · exact List.perm_append_singleton node below

namespace Layout
variable {α : Type}

def tour (order : VisitOrder) : Layout α → Nat → List Nat
  | nil, _ => []
  | cons _ _ _ _ _, 0 => []
  | cons _ node _ below rest, depth + 1 =>
      order.around node (below.tour order depth) ++ rest.tour order (depth + 1)

def passage (order : VisitOrder) (depth : Nat) (included : Bool) (node : Nat) (layout : Layout α) :
    List Nat :=
  if included then order.around node (layout.tour order depth) else layout.tour order depth

@[simp] theorem tour_zero (order : VisitOrder) (layout : Layout α) : layout.tour order 0 = [] := by
  cases layout <;> rfl

theorem tour_perm (order : VisitOrder) (layout : Layout α) (depth : Nat) :
    (layout.tour order depth).Perm (layout.tour .pre depth) := by
  induction layout generalizing depth with
  | nil => exact .refl _
  | cons symbol node entry below rest belowHyp restHyp =>
      cases depth with
      | zero => exact .refl _
      | succ depth =>
          exact ((order.around_perm node _).trans ((belowHyp depth).cons node)).append
            (restHyp (depth + 1))

theorem tour_sublist (layout : Layout α) (depth : Nat) :
    (layout.tour .pre depth).Sublist layout.nodes := by
  induction layout generalizing depth with
  | nil => exact .refl _
  | cons symbol node entry below rest belowHyp restHyp =>
      cases depth with
      | zero => exact List.nil_sublist _
      | succ depth => exact ((belowHyp depth).append (restHyp (depth + 1))).cons_cons node

theorem tour_eq_nodes {layout : Layout α} {depth : Nat} (deep : layout.height ≤ depth) :
    layout.tour .pre depth = layout.nodes := by
  induction layout generalizing depth with
  | nil => rfl
  | cons symbol node entry below rest belowHyp restHyp =>
      simp only [height] at deep
      obtain _ | depth := depth
      · omega
      rw [tour, belowHyp (by omega), restHyp (by omega)]
      rfl

theorem passage_eq (order : VisitOrder) (depth : Nat) (included : Bool) (node : Nat)
    (layout : Layout α) : layout.passage order depth included node =
      (if included && order = .pre then [node] else []) ++
        (layout.tour order depth ++ if included && order = .post then [node] else []) := by
  cases included <;> cases order <;> simp [passage, VisitOrder.around]

theorem mem_nodes_of_tour {layout : Layout α} {order : VisitOrder} {depth member : Nat}
    (toured : member ∈ layout.tour order depth) : member ∈ layout.nodes :=
  (layout.tour_sublist depth).subset ((layout.tour_perm order depth).mem_iff.1 toured)

theorem passage_subset (order : VisitOrder) (depth : Nat) (included : Bool) (node : Nat)
    (layout : Layout α) : layout.passage order depth included node ⊆ node :: layout.nodes := by
  intro member passed
  rw [passage] at passed
  split at passed
  · exact (List.mem_cons.1 ((order.around_perm node _).mem_iff.1 passed)).elim
      (fun same => same ▸ List.mem_cons_self)
      fun toured => List.mem_cons_of_mem _ (mem_nodes_of_tour toured)
  · exact List.mem_cons_of_mem _ (mem_nodes_of_tour passed)

end Layout

namespace Forest
variable {α : Type} {forest : Forest α} {node parent top : Nat} {layout : Layout α}

def LiesBelow (forest : Forest α) : Nat → Nat → Nat → Prop
  | 0, top, node => node = top
  | steps + 1, top, node => ∃ child ∈ forest.childrenOf top, forest.LiesBelow steps child node

/-- The order in which two nodes may be visited: ancestors come first, or come last. -/
def Ordered (forest : Forest α) (order : VisitOrder) (earlier later : Nat) : Prop :=
  match order with
  | .pre => ¬ forest.Within later earlier
  | .post => ¬ forest.Within earlier later

theorem Holds.mem_of_within (holds : forest.Holds parent layout) {member other : Nat}
    (inside : member ∈ layout.nodes) (within : forest.Within member other) :
    other ∈ layout.nodes :=
  within.mem_of_closed layout.nodes inside fun _ passed _ stored => by
    obtain ⟨cell, there, member⟩ := exists_storer stored
    exact holds.children_mem _ passed cell there _ member

theorem Holds.mem_tour_iff (holds : forest.Holds parent layout) (order : VisitOrder)
    (depth member : Nat) : member ∈ layout.tour order depth ↔
      ∃ steps < depth, ∃ child ∈ layout.links.map Prod.snd,
        forest.LiesBelow steps child member := by
  induction layout generalizing parent depth with
  | nil => simp [Layout.tour, Layout.links]
  | cons symbol node entry below rest belowHyp restHyp =>
      obtain ⟨⟨frozen, there⟩, under, beside⟩ := holds
      cases depth with
      | zero => simp
      | succ depth =>
          have children : forest.childrenOf node = below.links.map Prod.snd := by
            rw [childrenOf, there]
            rfl
          have own : member ∈ order.around node (below.tour order depth) ↔
              ∃ steps < depth + 1, forest.LiesBelow steps node member := by
            rw [(order.around_perm node _).mem_iff, List.mem_cons, belowHyp under depth,
              ← children]
            constructor
            · rintro (rfl | ⟨steps, few, child, stored, lies⟩)
              · exact ⟨0, Nat.succ_pos _, rfl⟩
              · exact ⟨steps + 1, Nat.succ_lt_succ few, child, stored, lies⟩
            · rintro ⟨_ | steps, few, lies⟩
              · exact .inl lies
              · obtain ⟨child, stored, lies⟩ := lies
                exact .inr ⟨steps, Nat.lt_of_succ_lt_succ few, child, stored, lies⟩
          rw [Layout.tour, List.mem_append, own, restHyp beside (depth + 1)]
          simp only [Layout.links, List.map_cons, List.mem_cons, exists_eq_or_imp]
          constructor
          · rintro (⟨steps, few, lies⟩ | ⟨steps, few, lies⟩)
            · exact ⟨steps, few, .inl lies⟩
            · exact ⟨steps, few, .inr lies⟩
          · rintro ⟨steps, few, lies | lies⟩
            · exact .inl ⟨steps, few, lies⟩
            · exact .inr ⟨steps, few, lies⟩

theorem Holds.around_ordered (holds : forest.Holds node layout) (fresh : node ∉ layout.nodes)
    (order : VisitOrder) (depth : Nat)
    (inside : (layout.tour order depth).Pairwise (forest.Ordered order)) :
    (order.around node (layout.tour order depth)).Pairwise (forest.Ordered order) := by
  have notAbove : ∀ member ∈ layout.tour order depth, ¬ forest.Within member node :=
    fun member toured within =>
      fresh (holds.mem_of_within (Layout.mem_nodes_of_tour toured) within)
  cases order with
  | pre => exact List.pairwise_cons.2 ⟨notAbove, inside⟩
  | post =>
      refine List.pairwise_append.2 ⟨inside, List.pairwise_singleton _ _, ?_⟩
      intro member toured other same
      obtain rfl := List.mem_singleton.1 same
      exact notAbove member toured

theorem Stands.childrenOf_eq (stands : forest.Stands node layout) :
    forest.childrenOf node = layout.links.map Prod.snd := by
  obtain ⟨cell, there, links⟩ := stands.top
  rw [childrenOf, there, ← links]
  rfl

theorem Holds.beside {symbol : Symbol} {entry : Entry α} {below rest : Layout α}
    (holds : forest.Holds parent (.cons symbol node entry below rest))
    (apart : (Layout.cons symbol node entry below rest).nodes.Nodup) {one other : Nat}
    (first : one ∈ node :: below.nodes) (second : other ∈ rest.nodes) (order : VisitOrder) :
    forest.Ordered order one other := by
  obtain ⟨there, under, beside⟩ := holds
  have parted : ((node :: below.nodes) ++ rest.nodes).Nodup := apart
  have disjoint : ∀ member ∈ node :: below.nodes, member ∉ rest.nodes := fun member ours theirs =>
    (List.nodup_append.1 parted).2.2 member ours member theirs rfl
  have own : forest.Holds parent (.cons symbol node entry below .nil) := ⟨there, under, trivial⟩
  have nodes : (Layout.cons symbol node entry below .nil).nodes = node :: below.nodes := by
    simp [Layout.nodes]
  cases order with
  | pre => exact fun within => disjoint one first (beside.mem_of_within second within)
  | post =>
      intro within
      have reached := own.mem_of_within (nodes ▸ first) within
      exact disjoint other (nodes ▸ reached) second

theorem Holds.tour_ordered (holds : forest.Holds parent layout) (apart : layout.nodes.Nodup)
    (order : VisitOrder) (depth : Nat) :
    (layout.tour order depth).Pairwise (forest.Ordered order) := by
  induction layout generalizing parent depth with
  | nil => exact .nil
  | cons symbol node entry below rest belowHyp restHyp =>
      obtain ⟨there, under, beside⟩ := holds
      obtain ⟨fresh, inner⟩ := List.nodup_cons.1 apart
      obtain ⟨belowApart, restApart, -⟩ := List.nodup_append.1 inner
      cases depth with
      | zero => exact .nil
      | succ depth =>
          refine List.pairwise_append.2 ⟨under.around_ordered
            (fun inside => fresh (List.mem_append_left _ inside)) order depth
            (belowHyp under belowApart depth), restHyp beside restApart (depth + 1), ?_⟩
          intro one first other second
          exact Holds.beside ⟨there, under, beside⟩ apart
            (Layout.passage_subset order depth true node below first)
            (Layout.mem_nodes_of_tour second) order

end Forest

/-! ### What a walk visits -/

def Forest.visit? {α : Type} (forest : Forest α) (node : NodeId) : Option (Visit α) :=
  (forest.cell? node).map fun cell => ⟨node, forest.path node, cell.token⟩

theorem Forest.visit?_of_mem {α : Type} {forest : Forest α} {nodes : List Nat} :
    ∀ visit ∈ nodes.filterMap forest.visit?, forest.visit? visit.node = some visit := by
  intro visit member
  obtain ⟨node, -, visited⟩ := List.mem_filterMap.1 member
  obtain ⟨cell, -, rfl⟩ := Option.map_eq_some_iff.1 visited
  exact visited

theorem Forest.map_visits {α : Type} {forest : Forest α} {nodes : List Nat}
    (there : ∀ node ∈ nodes, ∃ cell, forest.cell? node = some cell) :
    (nodes.filterMap forest.visit?).map (·.node) = nodes := by
  induction nodes with
  | nil => rfl
  | cons node nodes ih =>
      obtain ⟨⟨cell, known⟩, later⟩ := List.forall_mem_cons.1 there
      have visited : forest.visit? node = some ⟨node, forest.path node, cell.token⟩ := by
        rw [visit?, known, Option.map_some]
      rw [List.filterMap_cons_some visited, List.map_cons, ih later]

namespace Walk
variable {α : Type} {model : Forest α} {visitor : NodeId → ForestM α Unit} {parent : Nat}

theorem run_visit (visitor : NodeId → ForestM α Unit) (node : NodeId) (walk : Walk α) :
    Steps.run (visit visitor node) walk = ((Steps.run (visitor node) walk.forest).1,
      ⟨(Steps.run (visitor node) walk.forest).2,
        walk.visits ++ (walk.forest.visit? node).toArray⟩) := by
  rw [Steps.run, visit, Forest.visit?]
  cases walk.forest.cell? node with
  | none =>
      rw [Option.map_none, Option.toArray_none, Array.append_empty]
      rfl
  | some cell =>
      rw [Option.map_some, Option.toArray_some, ← Array.push_eq_append]
      rfl

theorem visitIf_eq_forM (visitor : NodeId → ForestM α Unit) (chosen : Bool) (node : Nat) :
    visitIf visitor chosen node = (if chosen then [node] else []).forM (visit visitor) := by
  cases chosen <;> simp [visitIf]

theorem forM_append {ι : Type} (first second : List ι) (step : ι → WalkM α Unit) :
    (first ++ second).forM step = (do first.forM step; second.forM step) :=
  List.forM_append

theorem run_through_eq (visitor : NodeId → ForestM α Unit) (order : VisitOrder) (depth : Nat)
    (node : NodeId) (walk : Walk α) :
    Steps.run (through visitor order depth node) walk = Steps.run
      ((walk.forest.childrenOf node).forM (descend visitor order depth true)) walk := by
  rw [run_through, Forest.childrenOf]
  cases walk.forest.cell? node with
  | none => rfl
  | some cell => simp [List.forM_map]

section
variable (gentle : Gentle visitor)
include gentle

theorem same_passage (order : VisitOrder) (included : Bool) {node : Nat} {layout : Layout α}
    (children : model.childrenOf node = layout.links.map Prod.snd)
    (below : ∀ depth, Same model
      ((layout.links.map Prod.snd).forM (descend visitor order depth true))
      ((layout.tour order (depth + 1)).forM (visit visitor))) (depth : Nat) :
    Same model (descend visitor order depth included node)
      ((layout.passage order depth included node).forM (visit visitor)) := by
  have same (steps : WalkM α Unit) : Same model steps steps := fun _ _ => rfl
  cases depth with
  | zero =>
      have alone : layout.passage order 0 included node = if included then [node] else [] := by
        cases included <;> cases order <;> simp [Layout.passage, VisitOrder.around]
      rw [alone, ← visitIf_eq_forM]
      exact same _
  | succ depth =>
      rw [descend_succ, Layout.passage_eq, forM_append, forM_append,
        ← visitIf_eq_forM, ← visitIf_eq_forM]
      refine (same _).bind (keeps_visitIf gentle _ node) (Same.bind (fun walk shaped => ?_)
        (keeps_through (keeps_descend gentle order depth true) node) (same _))
      rw [run_through_eq, shaped node, children]
      exact below depth walk shaped

theorem same_tour (order : VisitOrder) {layout : Layout α} (holds : model.Holds parent layout)
    (depth : Nat) : Same model
      ((layout.links.map Prod.snd).forM (descend visitor order depth true))
      ((layout.tour order (depth + 1)).forM (visit visitor)) := by
  induction layout generalizing parent depth with
  | nil => exact fun _ _ => rfl
  | cons symbol node entry below rest belowHyp restHyp =>
      obtain ⟨⟨frozen, there⟩, under, beside⟩ := holds
      have children : model.childrenOf node = below.links.map Prod.snd := by
        rw [Forest.childrenOf, there]
        rfl
      rw [Layout.tour, forM_append, Layout.links, List.map_cons]
      exact (same_passage gentle order true children (belowHyp under) depth).bind
        (keeps_descend gentle order depth true node) (restHyp beside depth)

/-- A walk from a node on top of a finite tree makes its passage through the tree. -/
theorem same_of_stands {node : Nat} {layout : Layout α} (stands : model.Stands node layout)
    (order : VisitOrder) (depth : Nat) (included : Bool) :
    Same model (descend visitor order depth included node)
      ((layout.passage order depth included node).forM (visit visitor)) :=
  same_passage gentle order included stands.childrenOf_eq (same_tour gentle order stands.holds)
    depth

end
end Walk
end Honji
