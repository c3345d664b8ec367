import Honji.Forest.Visitor
import Honji.Forest.Traversal
import Honji.Proofs.Forest.Upkeep

/-!
Ways that end. As long as no node is attached below itself, no way down from a node is as long as
the forest is large, so that reading, freezing and walking through what is below it is never cut
short; and its way up ends. Attaching does not refuse a node that is above its new parent, and after
that the way up goes in a circle.
-/

namespace Honji
namespace Forest
variable {α : Type} {before after forest : Forest α} {node parent child : Nat} {layout : Layout α}

/-! ### Ways down -/

theorem Holds.shallow {depth : Nat} {cell : Cell α} (there : forest.cell? node = some cell)
    (children : cell.children = layout.links) (holds : forest.Holds node layout)
    (deep : layout.height < depth) : forest.Shallow depth node := by
  induction depth generalizing node layout cell with
  | zero => exact absurd deep (Nat.not_lt_zero _)
  | succ depth ih =>
      intro child stored
      rw [mem_childrenOf there, children] at stored
      clear there children
      induction layout with
      | nil => simp [Layout.links] at stored
      | cons symbol first entry below rest _ restHyp =>
          obtain ⟨⟨frozen, found⟩, under, beside⟩ := holds
          simp only [Layout.height] at deep
          rw [Layout.links, List.map_cons, List.mem_cons] at stored
          rcases stored with rfl | stored
          · exact ih found rfl under (by omega)
          · exact restHyp beside (by omega) stored

theorem Stands.shallow (stands : forest.Stands node layout) :
    forest.Shallow forest.cells.size node := by
  obtain ⟨cell, there, children⟩ := stands.top
  exact stands.holds.shallow there children stands.height_lt_size

theorem Shallow.branches_eq {depth more : Nat} (shallow : forest.Shallow depth node)
    (enough : depth ≤ more) : forest.branches more node = forest.branches depth node := by
  induction depth generalizing node more with
  | zero => exact shallow.elim
  | succ depth ih =>
      obtain _ | more := more
      · omega
      rw [branches, branches]
      cases there : forest.cell? node with
      | none => rfl
      | some cell =>
          refine List.foldr_ext _ _ _ fun link member rest => ?_
          have stored := (mem_childrenOf there).2 (List.mem_map_of_mem member)
          cases forest.cell? link.2 with
          | none => rfl
          | some found => simp only [ih (shallow link.2 stored) (Nat.le_of_succ_le_succ enough)]

theorem Shallow.reachable_eq {depth more : Nat} (shallow : forest.Shallow depth node)
    (enough : depth ≤ more) : forest.reachable more node = forest.reachable depth node := by
  induction depth generalizing node more with
  | zero => exact shallow.elim
  | succ depth ih =>
      obtain _ | more := more
      · omega
      rw [reachable, reachable]
      cases there : forest.cell? node with
      | none => rfl
      | some cell =>
          refine congrArg (node :: ·) (List.flatMap_congr fun link member => ?_)
          have stored := (mem_childrenOf there).2 (List.mem_map_of_mem member)
          exact ih (shallow link.2 stored) (Nat.le_of_succ_le_succ enough)

/-! ### Walks -/

def Shaped (model forest : Forest α) : Prop :=
  ∀ node, forest.childrenOf node = model.childrenOf node

end Forest

namespace Walk
variable {α : Type} {model : Forest α} {visitor : NodeId → ForestM α Unit}

def Gentle (visitor : NodeId → ForestM α Unit) : Prop :=
  ∀ (node : NodeId) (forest : Forest α), forest.Shaped (Steps.run (visitor node) forest).2

def Keeps (model : Forest α) (steps : WalkM α Unit) : Prop :=
  ∀ walk, model.Shaped walk.forest → model.Shaped (Steps.run steps walk).2.forest

theorem Keeps.bind {first rest : WalkM α Unit} (here : Keeps model first)
    (goesOn : Keeps model rest) : Keeps model (first >>= fun _ => rest) := by
  intro walk shaped
  have between := here walk shaped
  rw [Steps.run_bind]
  generalize Steps.run first walk = ran at between ⊢
  rcases ran with ⟨_ | _, later⟩
  · exact between
  · exact goesOn later between

theorem Keeps.forM {ι : Type} {step : ι → WalkM α Unit} {items : List ι}
    (each : ∀ item ∈ items, Keeps model (step item)) : Keeps model (items.forM step) := by
  induction items with
  | nil => exact fun _ shaped => shaped
  | cons item items ih =>
      obtain ⟨here, later⟩ := List.forall_mem_cons.1 each
      exact here.bind (ih later)

def Same (model : Forest α) (steps other : WalkM α Unit) : Prop :=
  ∀ walk, model.Shaped walk.forest → Steps.run steps walk = Steps.run other walk

theorem Same.bind {first one rest other : WalkM α Unit} (here : Same model first one)
    (keeps : Keeps model first) (goesOn : Same model rest other) :
    Same model (first >>= fun _ => rest) (one >>= fun _ => other) := by
  intro walk shaped
  have between := keeps walk shaped
  rw [Steps.run_bind, Steps.run_bind, ← here walk shaped]
  generalize Steps.run first walk = ran at between ⊢
  rcases ran with ⟨_ | _, later⟩
  · rfl
  · exact goesOn later between

theorem Same.forM {ι : Type} {step other : ι → WalkM α Unit} {items : List ι}
    (each : ∀ item ∈ items, Same model (step item) (other item) ∧ Keeps model (step item)) :
    Same model (items.forM step) (items.forM other) := by
  induction items with
  | nil => exact fun _ _ => rfl
  | cons item items ih =>
      obtain ⟨⟨here, keeps⟩, later⟩ := List.forall_mem_cons.1 each
      exact here.bind keeps (ih later)

def visitIf (visitor : NodeId → ForestM α Unit) (chosen : Bool) (node : NodeId) : WalkM α Unit :=
  if chosen then visit visitor node else pure ()

def through (visitor : NodeId → ForestM α Unit) (order : VisitOrder) (depth : Nat)
    (node : NodeId) : WalkM α Unit := do
  (((← get).forest.cell? node).elim [] (·.children)).forM fun child =>
    descend visitor order depth true child.2

theorem descend_succ (visitor : NodeId → ForestM α Unit) (order : VisitOrder) (depth : Nat)
    (included : Bool) (node : NodeId) :
    descend visitor order (depth + 1) included node =
      (do visitIf visitor (included && order = .pre) node
          (do through visitor order depth node
              visitIf visitor (included && order = .post) node)) := by
  rw [descend, through, visitIf]
  cases included && decide (order = .pre) <;> rfl

theorem run_through (visitor : NodeId → ForestM α Unit) (order : VisitOrder) (depth : Nat)
    (node : NodeId) (walk : Walk α) :
    Steps.run (through visitor order depth node) walk = Steps.run
      (((walk.forest.cell? node).elim [] (·.children)).forM fun child =>
        descend visitor order depth true child.2) walk := rfl

theorem keeps_through {order : VisitOrder} {depth : Nat}
    (each : ∀ child, Keeps model (descend visitor order depth true child)) (node : NodeId) :
    Keeps model (through visitor order depth node) := by
  intro walk shaped
  rw [run_through]
  exact Keeps.forM (fun child _ => each child.2) walk shaped

section
variable (gentle : Gentle visitor)
include gentle

theorem keeps_visitIf (chosen : Bool) (node : NodeId) :
    Keeps model (visitIf visitor chosen node) := by
  intro walk shaped
  cases chosen
  · exact shaped
  · exact fun other => (gentle node walk.forest other).trans (shaped other)

theorem keeps_descend (order : VisitOrder) (depth : Nat) (included : Bool) (node : NodeId) :
    Keeps model (descend visitor order depth included node) := by
  induction depth generalizing included node with
  | zero => exact keeps_visitIf gentle included node
  | succ depth ih =>
      rw [descend_succ]
      exact (keeps_visitIf gentle _ node).bind
        ((keeps_through (fun child => ih true child) node).bind
          (keeps_visitIf gentle _ node))

theorem descend_eq {depth more : Nat} {node : Nat} (shallow : model.Shallow depth node)
    (enough : depth ≤ more) (order : VisitOrder) (included : Bool) :
    Same model (descend visitor order more included node)
      (descend visitor order depth included node) := by
  induction depth generalizing node more included with
  | zero => exact shallow.elim
  | succ depth ih =>
      obtain _ | more := more
      · omega
      have same (chosen : Bool) : Same model (visitIf visitor chosen node)
          (visitIf visitor chosen node) := fun _ _ => rfl
      have below : Same model (through visitor order more node)
          (through visitor order depth node) := by
        intro walk shaped
        rw [run_through, run_through]
        refine Same.forM (fun child member => ?_) walk shaped
        have stored : child.2 ∈ model.childrenOf node := by
          rw [← shaped node]
          cases there : walk.forest.cell? node with
          | none => simp [there] at member
          | some cell =>
              rw [there] at member
              exact (Forest.mem_childrenOf there).2 (List.mem_map_of_mem member)
        exact ⟨ih (shallow child.2 stored) (Nat.le_of_succ_le_succ enough) true,
          keeps_descend gentle order more true child.2⟩
      rw [descend_succ, descend_succ]
      exact (same _).bind (keeps_visitIf gentle _ node)
        (below.bind (keeps_through (keeps_descend gentle order more true) node) (same _))

end

/-! Visitors that do nothing, or that only change tokens, are gentle. -/

theorem gentle_idle : Gentle (Visitor.idle (α := α)) :=
  fun _ _ _ => rfl

theorem gentle_relabel (change : Path → α → α) : Gentle (Visitor.relabel change) := by
  intro node forest other
  rw [Visitor.relabel, Steps.run_bind_of_ok (Steps.run_get forest)]
  cases forest.cell? node with
  | none => rfl
  | some cell =>
      obtain ⟨outcome, checked⟩ := Forest.run_checkMutable_cases node forest
      rcases outcome with failure | ⟨⟩
      · simp only [Forest.setToken, Steps.run_bind, checked]
      · simp only [Forest.setToken, Steps.run_bind_of_ok checked]
        exact Forest.childrenOf_modify node
          ({ · with token := change (forest.path node) cell.token }) forest (fun _ => rfl) other

end Walk

/-! ### Ways up -/

namespace Forest
variable {α : Type} {before after forest : Forest α} {node parent child : Nat}

theorem Owned.climb?_eq_none (owned : forest.Owned) (stored : child ∈ forest.childrenOf parent)
    (around : forest.Within child parent) (steps : Nat) (collected : Path) :
    forest.climb? steps parent collected = none := by
  -- the way up stays between the two nodes, where each node has a symbol and a parent
  suffices endless : ∀ node : Nat, forest.Within child node → forest.Within node parent →
      forest.climb? steps node collected = none from endless parent around .top
  induction steps generalizing collected with
  | zero => exact fun _ _ _ => rfl
  | succ steps ih =>
      intro node above below
      have storing : ∃ upper, forest.Within child upper ∧ node ∈ forest.childrenOf upper := by
        rcases above.eq_or_stored with rfl | between
        · exact ⟨parent, around, stored⟩
        · exact between
      obtain ⟨upper, reached, storedToo⟩ := storing
      obtain ⟨storer, there, member⟩ := exists_storer storedToo
      obtain ⟨link, linked, rfl⟩ := List.mem_map.1 member
      obtain ⟨cell, known, key, up⟩ := owned.linked upper storer there link linked
      rw [climb?_of_parent known key up]
      exact ih _ upper reached ((Within.top.step storedToo).trans below)

theorem Attached.within (attached : before.Attached parent child after) {top : Nat}
    (within : before.Within top node) : after.Within top node := by
  induction within with
  | top => exact .top
  | child _ there stored ih => exact ih.step (attached.childrenOf ((mem_childrenOf there).2 stored))

theorem Attached.climb?_eq_none (attached : before.Attached parent child after)
    (owned : after.Owned) (inside : parent < before.cells.size)
    (around : before.Within child parent) (steps : Nat) (collected : Path) :
    after.climb? steps parent collected = none :=
  owned.climb?_eq_none (attached.stored inside) (attached.within around) steps collected

theorem Owned.climb?_attach (owned : before.Owned) (inside : parent < before.cells.size)
    (there : child < before.cells.size) (around : before.Within child parent)
    (accepted : Steps.run (attach parent child) before = (.ok (), after)) (steps : Nat)
    (collected : Path) : after.climb? steps parent collected = none := by
  obtain ⟨cell, known⟩ := exists_cell_of_lt there
  have ownedAfter : after.Owned := by
    have evolves := evolves_attach owned parent child
    rw [accepted] at evolves
    exact evolves.owned
  rcases run_attach_cases parent child before with ⟨outcome, ran, only⟩ | ⟨later, ran, attached⟩
  · obtain ⟨rfl, -⟩ := Prod.mk.inj (ran.symm.trans accepted)
    cases known.symm.trans (only rfl)
  · obtain ⟨-, rfl⟩ := Prod.mk.inj (ran.symm.trans accepted)
    exact attached.climb?_eq_none ownedAfter inside around steps collected

/-- No way in a forest goes on for ever, and nothing that follows the ways down is cut short. -/
structure Bounded (forest : Forest α) : Prop where
  acyclic : ∀ parent child : Nat, child ∈ forest.childrenOf parent → ¬ forest.Within child parent
  climbs : ∀ node : Nat, ∃ steps, forest.climb? steps node [] = some (forest.path node)
  paths : ∀ (parent : Nat) cell, forest.cell? parent = some cell → ∀ link ∈ cell.children,
    forest.path link.2 = forest.path parent ++ [link.1]
  reads : ∀ node more : Nat, node < forest.cells.size → forest.cells.size ≤ more →
    forest.branches more node = forest.branches forest.cells.size node
  reaches : ∀ node more : Nat, node < forest.cells.size → forest.cells.size ≤ more →
    forest.reachable more node = forest.reachable forest.cells.size node
  walks : ∀ visitor, Walk.Gentle visitor → ∀ (order : VisitOrder) (included : Bool)
    (node more : Nat) (walk : Walk α), node < forest.cells.size → forest.cells.size ≤ more →
    walk.forest = forest →
      Steps.run (Walk.descend visitor order more included node) walk =
        Steps.run (Walk.descend visitor order forest.cells.size included node) walk

theorem Wooded.bounded (wooded : forest.Wooded) : forest.Bounded := by
  have shallow (node : Nat) (inside : node < forest.cells.size) :
      forest.Shallow forest.cells.size node := by
    obtain ⟨layout, stands⟩ := wooded.exists_stands inside
    exact stands.shallow
  refine ⟨fun _ _ stored => wooded.not_within stored, wooded.exists_climb,
    fun _ _ there _ member => wooded.path_stored there member,
    fun node _ inside => (shallow node inside).branches_eq,
    fun node _ inside => (shallow node inside).reachable_eq, ?_⟩
  rintro visitor gentle order included node more walk inside enough rfl
  exact Walk.descend_eq gentle (shallow node inside) enough order included walk fun _ => rfl

end Forest

/-! ### Histories -/

namespace Woods
variable {α : Type} [Token α]

/-- In a history in which no node is attached below itself, every way ends. -/
theorem bounded_undergoAll {incidents : List (Incident α)}
    (admitted : (bare : Woods α).AdmitsAll incidents)
    (straight : (bare : Woods α).Throughout Straight incidents) :
    (bare.undergoAll incidents).forest.Bounded :=
  (tended_bare.wooded_undergoAll wooded_bare admitted straight).bounded

def grafts : List (Incident Text) :=
  [.operation (.create (some "い".toList) ⟨"i".toList, some true⟩),
    .operation (.create (some "か".toList) ⟨"ka".toList, some true⟩),
    .operation (.add 1 (some "ん".toList) ⟨"n".toList, some true⟩),
    .operation (.attach 0 1),
    .operation (.duplicate 0 true),
    .operation (.attach 2 3)]

theorem bounded_grafts :
    bare.AdmitsAll grafts ∧ bare.Throughout Straight grafts ∧
      (bare.undergoAll grafts).forest.Bounded := by
  have admitted : bare.AdmitsAll grafts := by decide +kernel
  have straight : bare.Throughout Straight grafts := by
    refine ⟨trivial, trivial, trivial, fun within => ?_, trivial, fun within => ?_, trivial⟩
    · exact absurd (within.mem_of_closed [1, 2] (by decide) (by decide +kernel))
        (by decide)
    · exact absurd (within.mem_of_closed [3, 4, 5] (by decide) (by decide +kernel))
        (by decide)
  exact ⟨admitted, straight, bounded_undergoAll admitted straight⟩

def lone : List (Incident Text) :=
  [.operation (.create (some "a".toList) ⟨[], some false⟩)]

/-- A node can be attached to itself; it is its own child then, and its way up never ends. -/
theorem endless_lone :
    bare.AdmitsAll lone ∧ (bare.undergoAll lone).Knows (.attach 0 0) ∧
      ∃ after, Steps.run (Forest.attach 0 0) (bare.undergoAll lone).forest = (.ok (), after) ∧
        0 ∈ after.childrenOf 0 ∧ ∀ steps, after.climb? steps 0 [] = none := by
  have admitted : bare.AdmitsAll lone := by decide +kernel
  have known : (bare.undergoAll lone).Knows (.attach 0 0) := by decide +kernel
  have owned := (tended_bare.undergoAll admitted).owned
  have inside : 0 < (bare.undergoAll lone).forest.cells.size := by decide +kernel
  exact ⟨admitted, known, _, rfl, by decide +kernel,
    fun steps => owned.climb?_attach inside inside .top rfl steps []⟩

end Woods
end Honji
