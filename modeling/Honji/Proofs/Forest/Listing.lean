import Honji.Proofs.Forest.Tours
import Honji.Proofs.Trie.Order

/-!
A trie listed and a trie walked through. The list that is drawn from a stack names the nodes that a
walk without a limit comes to, one by one, with the same texts and tokens.
-/

namespace Honji

namespace Layout
variable {α : Type}

theorem links_sublist (layout : Layout α) : (layout.links.map Prod.snd).Sublist layout.nodes := by
  induction layout with
  | nil => exact .refl _
  | cons symbol node entry below rest _ ih =>
      exact (ih.trans (List.sublist_append_right below.nodes rest.nodes)).cons_cons node

end Layout

namespace Forest
variable {α : Type} {forest : Forest α} {node parent : Nat} {layout : Layout α} {above : Path}

theorem Holds.children_sublist (holds : forest.Holds parent layout) :
    ∀ member ∈ layout.nodes, ∀ cell, forest.cell? member = some cell →
      (cell.children.map Prod.snd).Sublist layout.nodes := by
  induction layout generalizing parent with
  | nil => simp [Layout.nodes]
  | cons symbol node entry below rest belowHyp restHyp =>
      obtain ⟨⟨frozen, there⟩, under, beside⟩ := holds
      have own : below.nodes.Sublist (node :: (below.nodes ++ rest.nodes)) :=
        (List.sublist_append_left _ _).cons node
      have others : rest.nodes.Sublist (node :: (below.nodes ++ rest.nodes)) :=
        (List.sublist_append_right _ _).cons node
      intro member inside cell known
      simp only [Layout.nodes, List.mem_cons, List.mem_append] at inside
      rcases inside with rfl | inside | inside
      · obtain rfl := Option.some.inj (there.symm.trans known)
        exact below.links_sublist.trans own
      · exact (belowHyp under member inside cell known).trans own
      · exact (restHyp beside member inside cell known).trans others

theorem Holds.map_visits (holds : forest.Holds parent layout)
    (ends : ∃ steps, forest.climb? steps parent [] = some above) :
    (layout.nodes.filterMap forest.visit?).map (fun visit => (visit.path, visit.token)) =
      (layout.branches.walk above).map fun (path, entry) => (path, entry.token) := by
  induction layout generalizing parent above with
  | nil => rfl
  | cons symbol node entry below rest belowHyp restHyp =>
      obtain ⟨⟨frozen, there⟩, under, beside⟩ := holds
      have endsToo : ∃ steps, forest.climb? steps node [] = some (above ++ [symbol]) := by
        obtain ⟨steps, climbed⟩ := ends
        exact ⟨steps + 1, by
          rw [climb?_of_parent there rfl rfl, climb?_append, climbed, Option.map_some]⟩
      have visited : forest.visit? node = some ⟨node, above ++ [symbol], entry.token⟩ := by
        obtain ⟨steps, climbed⟩ := endsToo
        rw [visit?, there, Option.map_some, path_eq climbed]
      rw [Layout.nodes, List.filterMap_cons_some visited, List.filterMap_append, List.map_cons,
        List.map_append, belowHyp under endsToo, restHyp beside ends, Layout.branches,
        Branches.walk, List.map_cons, List.map_append]

end Forest

namespace Walk
variable {α : Type}

theorem run_idle (nodes : List Nat) (walk : Walk α) :
    Steps.run (nodes.forM (visit Visitor.idle)) walk =
      (.ok (), ⟨walk.forest, walk.visits ++ (nodes.filterMap walk.forest.visit?).toArray⟩) := by
  induction nodes generalizing walk with
  | nil => simp
  | cons node nodes ih =>
      have ran : Steps.run (visit Visitor.idle node) walk =
          (.ok (), ⟨walk.forest, walk.visits ++ (walk.forest.visit? node).toArray⟩) :=
        run_visit Visitor.idle node walk
      rw [List.forM_eq_forM, List.forM_cons, Steps.run_bind_of_ok ran, ← List.forM_eq_forM, ih]
      cases visited : walk.forest.visit? node with
      | none => simp [visited]
      | some visit => simp [visited]

end Walk

namespace RootedTrie
variable {α : Type} {forest : Forest α} {trie : RootedTrie α} {layout : Layout α}

structure Listed (trie : RootedTrie α) (forest : Forest α) (visits : List (Visit α)) : Prop where
  items : (trie.read forest).items = visits.map fun visit => (visit.path.joined, visit.token)
  size : (trie.read forest).size = visits.length
  noted : ∀ visit ∈ visits, forest.visit? visit.node = some visit
  members : ∀ node : Nat, node ∈ visits.map (·.node) ↔
    node ≠ trie.root ∧ forest.Within trie.root node
  once : (visits.map (·.node)).Nodup
  parents : (visits.map (·.node)).Pairwise fun earlier later => ¬ forest.Within later earlier
  siblings : ∀ node : Nat, forest.Within trie.root node →
    (forest.childrenOf node).Sublist (visits.map (·.node))

/-- A trie is listed as it is walked through, and no walk leaves out a way because it was gone. -/
structure Agrees (trie : RootedTrie α) (forest : Forest α) : Prop where
  walked : ∃ visits, trie.Listed forest visits ∧ ∀ seen,
    Steps.run (Walk.run Visitor.idle (.text "pre".toList) none false trie.root) ⟨forest, seen⟩ =
      (.ok (), ⟨forest, seen ++ visits.toArray⟩)
  unsuppressed : ∀ visitor, Walk.Orderly visitor → ∀ (order : VisitOrder) (depth : Nat)
    (included : Bool) (node : Nat) (walk : Walk α), walk.forest = forest →
      Steps.run (Walk.afresh (Walk.descendOnce visitor order depth included [] node)) walk =
        Steps.run (Walk.descend visitor order depth included node) walk

theorem listed_of_stands (stands : forest.Stands trie.root layout) (rooted : trie.IsRooted forest) :
    trie.Listed forest (layout.nodes.filterMap forest.visit?) := by
  obtain ⟨cell, there, unnamed⟩ := rooted
  obtain ⟨fresh, apart⟩ := List.nodup_cons.1 stands.apart
  have nodes := Forest.map_visits stands.holds.exists_cell
  have ends : forest.climb? 1 trie.root [] = some [] := by
    rw [Forest.climb?, there]
    simp [unnamed]
  have items : (trie.read forest).items = (layout.nodes.filterMap forest.visit?).map
      fun visit => (visit.path.joined, visit.token) := by
    have told := congrArg (List.map fun pair : Path × α => (pair.1.joined, pair.2))
      (stands.holds.map_visits ⟨1, ends⟩)
    rw [Trie.items_eq, read_eq (stands.tree?_eq there)]
    simpa [Function.comp_def] using told.symm
  refine ⟨items, by rw [Trie.size, items, List.length_map], Forest.visit?_of_mem, ?_, ?_, ?_, ?_⟩
  · intro node
    rw [nodes, stands.within_iff, List.mem_cons]
    exact ⟨fun inside => ⟨fun same => fresh (same ▸ inside), .inr inside⟩,
      fun both => both.2.resolve_left both.1⟩
  · rw [nodes]
    exact apart
  · have ordered := stands.holds.tour_ordered apart .pre layout.height
    rwa [Layout.tour_eq_nodes (Nat.le_refl _), ← nodes] at ordered
  · intro node within
    rw [nodes]
    obtain ⟨found, known⟩ := stands.exists_cell (stands.within_iff.1 within)
    rw [Forest.childrenOf, known]
    rcases List.mem_cons.1 (stands.within_iff.1 within) with rfl | inside
    · obtain ⟨top, knownToo, links⟩ := stands.top
      obtain rfl := Option.some.inj (known.symm.trans knownToo)
      rw [Option.elim_some, links]
      exact layout.links_sublist
    · exact stands.holds.children_sublist node inside found known

theorem agrees_of_stands (owned : forest.Owned) (stands : forest.Stands trie.root layout)
    (rooted : trie.IsRooted forest) : trie.Agrees forest := by
  refine ⟨⟨_, listed_of_stands stands rooted, fun seen => ?_⟩, ?_⟩
  · rw [Walk.run_run Walk.orderly_idle rfl none false trie.root owned,
      Walk.same_of_stands Walk.gentle_idle stands .pre _ false ⟨forest, seen⟩ fun _ => rfl,
      Walk.run_idle]
    rw [Layout.passage, if_neg Bool.false_ne_true, Option.elim_none,
      Layout.tour_eq_nodes (Nat.le_of_lt stands.height_lt_size)]
  · rintro visitor orderly order depth included node walk rfl
    exact Walk.run_afresh orderly order depth included node owned

end RootedTrie

namespace Woods
variable {α : Type} [Token α]

/-- Whatever was done to a trie, it is listed in the order in which a walk goes through it. -/
theorem listed_undergoAll {incidents : List (Incident α)}
    (admitted : (bare : Woods α).AdmitsAll incidents) {trie : RootedTrie α}
    (made : trie ∈ (bare.undergoAll incidents).tries) :
    trie.Agrees (bare.undergoAll incidents).forest := by
  have tended := tended_bare.undergoAll admitted
  obtain ⟨layout, stands⟩ := tended.exists_stands made
  exact RootedTrie.agrees_of_stands tended.owned stands (tended.rooted trie made)

def ambiguous : List (Incident Text) :=
  [.operation (.createTrie (some false) []),
    .operation (.insert ⟨0, some false, []⟩ ["a".toList, "bc".toList] "first".toList),
    .operation (.insert ⟨0, some false, []⟩ ["ab".toList, "c".toList] "second".toList),
    .operation (.insert ⟨0, some false, []⟩ [[], "abc".toList] "third".toList)]

theorem listed_ambiguous :
    bare.AdmitsAll ambiguous ∧ ⟨0, some false, []⟩ ∈ (bare.undergoAll ambiguous).tries ∧
      RootedTrie.Agrees ⟨0, some false, []⟩ (bare.undergoAll ambiguous).forest := by
  have admitted : bare.AdmitsAll ambiguous := by decide +kernel
  have made : ⟨0, some false, []⟩ ∈ (bare.undergoAll ambiguous).tries := by decide +kernel
  exact ⟨admitted, made, listed_undergoAll admitted made⟩

end Woods
end Honji
