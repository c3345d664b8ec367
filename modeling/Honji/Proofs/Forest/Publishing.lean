import Honji.Proofs.Forest.Ancestry
import Honji.Proofs.Forest.Freezing
import Honji.Proofs.Forest.Sparing

/-!
Tries that are published. From then on nothing that happens to the forest changes a node of the
trie: operations spare its nodes, since they are frozen and have their places, and none of them is
released as long as the root is held. Attempts to change it are refused, and what is made from it
lies in nodes of its own that can be changed.
-/

namespace Honji

/-! ### Trees that nothing changes -/

namespace Forest
variable {α : Type} {forest after : Forest α} {top node : Nat} {layout : Layout α}

structure Sealed (forest : Forest α) (top : Nat) (layout : Layout α) : Prop where
  stands : forest.Stands top layout
  fixed : ∀ member ∈ top :: layout.nodes, ∃ cell, forest.cell? member = some cell ∧ cell.Fixed

theorem Sealed.congr (whole : forest.Sealed top layout)
    (same : ∀ member ∈ top :: layout.nodes, after.cell? member = forest.cell? member) :
    after.Sealed top layout where
  stands := whole.stands.congr same
  fixed := fun member inside => by
    rw [same member inside]
    exact whole.fixed member inside

theorem Stands.stored (stands : forest.Stands top layout) (inside : node ∈ layout.nodes) :
    ¬ forest.Unstored node := by
  intro free
  have within : forest.Within top node := stands.within_iff.2 (List.mem_cons_of_mem _ inside)
  cases within with
  | top => exact (List.nodup_cons.1 stands.apart).1 inside
  | child _ there stored => exact free.notMem there stored

theorem Stands.release (stands : forest.Stands top layout) (owned : forest.Owned)
    (root : forest.Unstored top) (free : forest.Unstored node) (other : top ≠ node) :
    ∀ member ∈ top :: layout.nodes,
      (forest.release node).cell? member = forest.cell? member := by
  have outside : node ∉ top :: layout.nodes := by
    intro passed
    rcases List.mem_cons.1 passed with same | passed
    · exact other same.symm
    · exact stands.stored passed free
  intro member inside
  have kept : member ≠ node := fun same => outside (same ▸ inside)
  have held : member ∉ forest.childrenOf node := by
    intro stored
    cases there : forest.cell? node with
    | none => simp [childrenOf, there] at stored
    | some cell =>
        simp only [childrenOf, there, Option.elim_some] at stored
        rcases List.mem_cons.1 inside with rfl | inside
        · exact root.notMem there stored
        · obtain ⟨found, here, up⟩ := owned.exists_parent there stored
          obtain ⟨parent, passed, upToo⟩ := stands.holds.parent_mem member inside found here
          obtain rfl := Option.some.inj (up.symm.trans upToo)
          exact outside passed
  rw [cell?_release]
  simp [kept, held]

end Forest

/-! ### What is refused -/

namespace Operation
variable {α : Type}

def target? : Operation α → Option NodeId
  | add parent _ _ | attach parent _ => some parent
  | addMany parent rules => if rules.isEmpty then none else some parent
  | setToken node _ => some node
  | merge _ target _ => some target
  | insert trie path _ => if path.isEmpty then none else some trie.root
  | mergeTries _ target _ => some target.root
  | _ => none

def Grounded (operation : Operation α) (forest : Forest α) : Prop :=
  (∀ node ∈ operation.nodes, node < forest.cells.size) ∧
    ∀ trie ∈ operation.tries, trie.root < forest.cells.size

end Operation

namespace Forest
variable {α β γ : Type} {forest : Forest α} {top node : Nat} {layout : Layout α}

def Refuses (forest : Forest α) (top : Nat) (steps : ForestM α β) : Prop :=
  ∃ refused, forest.Within top refused ∧
    Steps.run steps forest = (.error (.frozenNode (forest.path refused)), forest)

theorem Refuses.bind {first : ForestM α β} (refuses : forest.Refuses top first)
    (next : β → ForestM α γ) : forest.Refuses top (first >>= next) := by
  obtain ⟨refused, inside, ran⟩ := refuses
  exact ⟨refused, inside, by rw [Steps.run_bind, ran]⟩

theorem Refuses.silent {steps : ForestM α β} (refuses : forest.Refuses top steps) :
    forest.Refuses top (Operation.silent steps) :=
  (refuses.bind fun _ => pure PUnit.unit).bind fun _ => pure none

theorem Refuses.of_run {first : ForestM α β} {next : β → ForestM α γ} {value : β}
    (ran : Steps.run first forest = (.ok value, forest))
    (refuses : forest.Refuses top (next value)) : forest.Refuses top (first >>= next) := by
  obtain ⟨refused, inside, fails⟩ := refuses
  exact ⟨refused, inside, (Steps.run_bind_of_ok ran).trans fails⟩

namespace Sealed
variable (whole : forest.Sealed top layout)
include whole

theorem refuses_checked (inside : forest.Within top node) (rest : Unit → ForestM α β) :
    forest.Refuses top (checkMutable node >>= rest) := by
  obtain ⟨cell, there, fixed⟩ := whole.fixed node (whole.stands.within_iff.1 inside)
  refine ⟨node, inside, ?_⟩
  rw [Steps.run_bind, run_checkMutable_of_frozen there fixed.frozen]

theorem refuses_addKeyed (inside : forest.Within top node) (key : Option Symbol)
    (entry : Entry α) : forest.Refuses top (addKeyed node key entry) := by
  cases key with
  | some symbol => exact whole.refuses_checked inside _
  | none => exact whole.refuses_checked inside _

theorem refuses_merge (inside : forest.Within top node) (resolve : Resolver α) {source : Nat}
    (there : source < forest.cells.size) : forest.Refuses top (merge resolve node source) := by
  obtain ⟨cell, found⟩ := exists_cell_of_lt there
  refine .of_run (Steps.run_get forest) ?_
  rw [tree?, found]
  exact (whole.refuses_checked inside _).bind _

theorem run_walk (trie : RootedTrie α) (path : Path) (inside : forest.Within top node) :
    (∃ found, forest.Within top found ∧
      Steps.run (path.foldlM trie.childOrNew node) forest = (.ok found, forest)) ∨
        forest.Refuses top (path.foldlM trie.childOrNew node) := by
  induction path generalizing node with
  | nil => exact .inl ⟨node, inside, rfl⟩
  | cons symbol path ih =>
      rw [List.foldlM_cons]
      cases led : trie.child? forest node symbol with
      | none =>
          refine .inr (Refuses.bind (.of_run (Steps.run_get forest) ?_) _)
          rw [led]
          exact whole.refuses_checked inside _
      | some child =>
          have step : Steps.run (trie.childOrNew node symbol) forest = (.ok child, forest) := by
            rw [RootedTrie.childOrNew, Steps.run_bind_of_ok (Steps.run_get forest), led]
            rfl
          obtain ⟨cell, there, looked⟩ := Option.bind_eq_some_iff.1 led
          have stored : child ∈ cell.children.map Prod.snd := by
            obtain ⟨before, after, parts, -⟩ := List.lookup_eq_some_iff.1 looked
            simp [parts]
          rcases ih (inside.child there stored) with ⟨found, ended, ran⟩ | refuses
          · exact .inl ⟨found, ended, (Steps.run_bind_of_ok step).trans ran⟩
          · exact .inr (.of_run step refuses)

theorem refuses_insert {trie : RootedTrie α} (inside : forest.Within top trie.root) {path : Path}
    (filled : path.isEmpty = false) (token : α) :
    forest.Refuses top (trie.insert path token) := by
  rw [RootedTrie.insert, filled]
  rcases whole.run_walk trie path inside with ⟨found, ended, ran⟩ | refuses
  · exact .of_run ran ((whole.refuses_checked ended _).bind _)
  · exact refuses.bind _

theorem refuses_act [Token α] {operation : Operation α} (grounded : operation.Grounded forest)
    (aims : operation.target? = some node) (inside : forest.Within top node) :
    forest.Refuses top operation.act := by
  obtain ⟨nodes, tries⟩ := grounded
  cases operation with
  | add parent key entry =>
      cases aims
      exact (whole.refuses_addKeyed inside key entry).silent
  | addMany parent rules =>
      cases rules with
      | nil => cases aims
      | cons rule rules =>
          cases aims
          refine Refuses.silent ?_
          rw [addMany, List.mapM_cons]
          exact (whole.refuses_addKeyed inside rule.1 _).bind _
  | attach parent child =>
      cases aims
      exact (whole.refuses_checked inside _).silent
  | setToken target token =>
      cases aims
      exact (whole.refuses_checked inside _).silent
  | merge resolve target source =>
      cases aims
      exact (whole.refuses_merge inside resolve (nodes source (by simp [Operation.nodes]))).silent
  | insert trie path token =>
      simp only [Operation.target?] at aims
      split at aims
      · cases aims
      · next filled =>
        cases aims
        exact (whole.refuses_insert inside (Bool.eq_false_iff.2 filled) token).silent
  | mergeTries resolve target source =>
      cases aims
      exact (whole.refuses_merge inside resolve
        (tries source (by simp [Operation.tries]))).silent
  | _ => cases aims

end Sealed
end Forest

/-! ### What is made of a trie -/

namespace Forest
variable {α : Type} {forest before after : Forest α} {node : Nat}

def Fresh (before after : Forest α) (top : Nat) : Prop :=
  ∀ node, after.Within top node → before.cells.size ≤ node ∧
    ∃ cell, after.cell? node = some cell ∧ cell.frozen = false

theorem Gained.fresh {tree : Node α} (gained : Gained before after node tree) :
    before.Fresh after node := by
  obtain ⟨layout, stands, new⟩ := gained.stands
  intro member within
  have inside := stands.within_iff.1 within
  obtain ⟨cell, there⟩ := stands.exists_cell inside
  exact ⟨new member inside, cell, there,
    gained.grows.changeable member cell (new member inside) there⟩

theorem run_duplicate {cell : Cell α} (there : forest.cell? node = some cell)
    (withChildren : Bool) : ∃ copy after,
      Steps.run (duplicate node withChildren) forest = (.ok copy, after) ∧
        forest.Fresh after copy := by
  have read : forest.tree? node = some ⟨cell.entry, forest.branches forest.cells.size node,
      forest.distinct_branches _ _⟩ := by
    rw [tree?, there, Option.map_some]
  rw [duplicate, Steps.run_bind_of_ok (Steps.run_get forest), there, read]
  cases withChildren with
  | true =>
      obtain ⟨after, ran, gained⟩ := run_plant cell.key ⟨cell.entry, _,
        forest.distinct_branches forest.cells.size node⟩ forest
      exact ⟨_, after, ran, gained.fresh⟩
  | false =>
      obtain ⟨after, ran, gained⟩ := run_plant cell.key (.leaf cell.entry) forest
      exact ⟨_, after, ran, gained.fresh⟩

end Forest

theorem RootedTrie.find?_congr {α : Type} {trie : RootedTrie α} {before after : Forest α}
    (same : ∀ node, before.Within trie.root node → after.child? node = before.child? node)
    (path : Path) : trie.find? after path = trie.find? before path := by
  have walk (node : NodeId) (inside : before.Within trie.root node) :
      path.foldlM (trie.child? after) node = path.foldlM (trie.child? before) node := by
    induction path generalizing node with
    | nil => rfl
    | cons symbol path ih =>
        have led : trie.child? after node symbol = trie.child? before node symbol := by
          rw [child?, child?, same node inside]
        rw [List.foldlM_cons, List.foldlM_cons, led]
        cases known : trie.child? before node symbol with
        | none => rfl
        | some child => exact ih child (inside.step (Forest.mem_childrenOf_of_child? known))
  exact walk trie.root .top

theorem RootedTrie.find?_freeze {α : Type} {trie : RootedTrie α} {before after : Forest α}
    {layout : Layout α} (stands : before.Stands trie.root layout)
    (frozen : ∀ member ∈ trie.root :: layout.nodes,
      after.cell? member = (before.cell? member).map Cell.freeze) (path : Path) :
    trie.find? after path = trie.find? before path := by
  refine find?_congr (fun node inside => funext fun symbol => ?_) path
  rw [Forest.child?, Forest.child?, frozen node (stands.within_iff.1 inside)]
  cases before.cell? node <;> rfl

/-! ### Published tries -/

/--
What is true of a trie ever after it was frozen: of all there is below its root, of all answers it
gives, of all attempts to change it, and of all that is made of it.
-/
structure RootedTrie.Published {α : Type} [Token α] (trie : RootedTrie α) (start now : Woods α) :
    Prop where
  tree : ∀ node, now.forest.Within trie.root node ↔ start.forest.Within trie.root node
  cells : ∀ node, start.forest.Within trie.root node →
    now.forest.cell? node = (start.forest.cell? node).map Cell.freeze
  frozen : ∀ node, now.forest.Within trie.root node →
    ∃ cell, now.forest.cell? node = some cell ∧ cell.frozen = true
  find? : ∀ path, trie.find? now.forest path = trie.find? start.forest path
  read : trie.read now.forest = (trie.read start.forest).freeze
  refuses : ∀ (operation : Operation α) node, operation.Grounded now.forest →
    operation.target? = some node → now.forest.Within trie.root node →
      now.forest.Refuses trie.root operation.act
  copies : ∀ node withChildren, now.forest.Within trie.root node → ∃ copy after,
    Steps.run (Forest.duplicate node withChildren) now.forest = (.ok copy, after) ∧
      now.forest.Fresh after copy
  duplicates : ∃ copy after, Steps.run trie.duplicate now.forest = (.ok copy, after) ∧
    now.forest.Fresh after copy.root
  merges : ∀ resolve tries caseInsensitive, trie ∈ tries → tries ⊆ now.tries → ∃ laid after,
    Steps.run (RootedTrie.merged resolve tries caseInsensitive) now.forest = (.ok laid, after) ∧
      now.forest.Fresh after laid.root
  overlays : ∀ resolve base (source : RuleSource α), trie ∈ base :: source.tries →
    base :: source.tries ⊆ now.tries →
      match (source.mapping now.forest).toTrie base.caseInsensitive.taken with
      | .error failure =>
          Steps.run (base.overlay resolve (some source)) now.forest = (.error failure, now.forest)
      | .ok _ => ∃ laid after,
          Steps.run (base.overlay resolve (some source)) now.forest = (.ok laid, after) ∧
            now.forest.Fresh after laid.root

namespace Woods
variable {α : Type} [Token α] {woods : Woods α} {top : Nat} {layout : Layout α}

theorem Tended.same_of_sealed (tended : woods.Tended) (whole : woods.forest.Sealed top layout)
    (root : woods.forest.Unstored top) {incident : Incident α} (admitted : woods.Admits incident)
    (held : incident ≠ .release top) : ∀ member ∈ top :: layout.nodes,
      (woods.undergo incident).forest.cell? member = woods.forest.cell? member := by
  cases incident with
  | operation operation =>
      intro member inside
      obtain ⟨cell, there, fixed⟩ := whole.fixed member inside
      rw [Woods.undergo, forest_perform, there]
      exact operation.spares_act woods.forest member cell there fixed
  | release node =>
      exact whole.stands.release tended.owned root admitted fun same => held (same ▸ rfl)

/-- The nodes of a sealed trie are the same at the end of whatever happens to the forest. -/
theorem Tended.same_of_sealed_undergoAll (tended : woods.Tended) {trie : RootedTrie α}
    (made : trie ∈ woods.tries) (whole : woods.forest.Sealed trie.root layout)
    {incidents : List (Incident α)} (admitted : woods.AdmitsAll incidents)
    (held : .release trie.root ∉ incidents) : ∀ member ∈ trie.root :: layout.nodes,
      (woods.undergoAll incidents).forest.cell? member = woods.forest.cell? member := by
  induction incidents generalizing woods with
  | nil => exact fun _ _ => rfl
  | cons incident rest ih =>
      obtain ⟨here, later⟩ := not_or.1 (mt List.mem_cons.2 held)
      obtain ⟨cell, there, unnamed⟩ := tended.rooted trie made
      have same := tended.same_of_sealed whole (tended.owned.unstored there unnamed) admitted.1
        (Ne.symm here)
      intro member inside
      have step := ih (tended.undergo admitted.1) (woods.subset_undergo incident made)
        (whole.congr same) admitted.2 later member inside
      exact step.trans (same member inside)

theorem Tended.sealed_freeze (tended : woods.Tended) {trie : RootedTrie α}
    (made : trie ∈ woods.tries) (stands : woods.forest.Stands trie.root layout) :
    (woods.perform (.freeze trie)).forest.Sealed trie.root layout ∧
      ∀ member ∈ trie.root :: layout.nodes, (woods.perform (.freeze trie)).forest.cell? member =
        (woods.forest.cell? member).map Cell.freeze := by
  obtain ⟨after, ran, frozen, -⟩ := stands.run_freeze
  have reached : (woods.perform (.freeze trie)).forest = after := by
    have silent : Steps.run (Operation.silent (RootedTrie.freeze trie)) woods.forest =
        (.ok none, after) := Steps.run_bind_of_ok (Steps.run_bind_of_ok ran)
    rw [forest_perform, Operation.act, silent]
  rw [reached]
  refine ⟨⟨stands.freeze frozen, fun member inside => ?_⟩, frozen⟩
  rw [frozen member inside]
  rcases List.mem_cons.1 inside with rfl | below
  · obtain ⟨cell, there, unnamed⟩ := tended.rooted trie made
    exact ⟨cell.freeze, by rw [there]; rfl, rfl, .inl unnamed⟩
  · obtain ⟨cell, there⟩ := stands.holds.exists_cell member below
    obtain ⟨up, -, parent⟩ := stands.holds.parent_mem member below cell there
    exact ⟨cell.freeze, by rw [there]; rfl, rfl, .inr (by simp [Cell.freeze, parent])⟩

theorem Tended.published {start now : Woods α} {trie : RootedTrie α} (tended : now.Tended)
    (stands : start.forest.Stands trie.root layout) (whole : now.forest.Sealed trie.root layout)
    (cells : ∀ member ∈ trie.root :: layout.nodes,
      now.forest.cell? member = (start.forest.cell? member).map Cell.freeze) :
    trie.Published start now := by
  have fixed (node : NodeId) (inside : now.forest.Within trie.root node) :
      ∃ cell, now.forest.cell? node = some cell ∧ cell.Fixed :=
    whole.fixed node (whole.stands.within_iff.1 inside)
  have stand : ∀ tries : List (RootedTrie α), tries ⊆ now.tries →
      ∀ other ∈ tries, ∃ layout, now.forest.Stands other.root layout :=
    fun _ made other member => tended.exists_stands (made member)
  constructor
  case tree => exact fun node => whole.stands.within_iff.trans stands.within_iff.symm
  case cells => exact fun node inside => cells node (stands.within_iff.1 inside)
  case frozen =>
    intro node inside
    obtain ⟨cell, there, fixed⟩ := fixed node inside
    exact ⟨cell, there, fixed.frozen⟩
  case find? => exact RootedTrie.find?_freeze stands cells
  case read => exact RootedTrie.read_freeze stands cells
  case refuses => exact fun operation node => whole.refuses_act
  case copies =>
    intro node withChildren inside
    obtain ⟨cell, there, -⟩ := fixed node inside
    exact Forest.run_duplicate there withChildren
  case duplicates =>
    obtain ⟨cell, there, -⟩ := fixed trie.root .top
    obtain ⟨copy, after, ran, fresh⟩ := Forest.run_duplicate there true
    exact ⟨{ trie with root := copy }, after, Steps.run_bind_of_ok ran, fresh⟩
  case merges =>
    intro resolve tries caseInsensitive _ made
    obtain ⟨laid, after, ran, -, gained, -⟩ :=
      RootedTrie.run_merged resolve tries (stand tries made) caseInsensitive
    exact ⟨laid, after, ran, gained.fresh⟩
  case overlays =>
    intro resolve base source _ made
    obtain ⟨here, later⟩ := List.cons_subset.1 made
    obtain ⟨baseLayout, baseStands⟩ := tended.exists_stands here
    have ran := RootedTrie.run_overlay resolve base baseStands source fun other same =>
      stand source.tries later other (by simp [same, RuleSource.tries])
    rw [Trie.overlay_some, RootedTrie.caseInsensitive_read] at ran
    cases given : (source.mapping now.forest).toTrie base.caseInsensitive.taken with
    | error failure =>
        rw [given] at ran
        exact ran
    | ok rules =>
        rw [given] at ran
        obtain ⟨laid, after, ran, -, -, gained⟩ := ran
        exact ⟨laid, after, ran, gained.fresh⟩

/--
A trie that is frozen stays as it is, in all its nodes and all its answers, whatever happens to the
forest as long as its root is held; no attempt to change it succeeds, and what is made of it can be
changed and shares no node with it.
-/
theorem published_undergoAll {before later : List (Incident α)} {trie : RootedTrie α}
    (admitted : (bare : Woods α).AdmitsAll before)
    (made : trie ∈ (bare.undergoAll before).tries)
    (continued : ((bare.undergoAll before).perform (.freeze trie)).AdmitsAll later)
    (held : .release trie.root ∉ later) :
    trie.Published (bare.undergoAll before)
      (((bare.undergoAll before).perform (.freeze trie)).undergoAll later) := by
  have tended := tended_bare.undergoAll admitted
  generalize bare.undergoAll before = start at tended made continued ⊢
  have known : start.Knows (.freeze trie) := ⟨by simp [Operation.nodes], by simpa [Operation.tries]⟩
  have frozen := tended.perform known
  obtain ⟨layout, stands⟩ := tended.exists_stands made
  obtain ⟨whole, marked⟩ := tended.sealed_freeze made stands
  -- what the cells held at the freezing is fixed, so neither operations nor releases change it
  have same := frozen.same_of_sealed_undergoAll
    (start.subset_undergo (.operation (.freeze trie)) made) whole continued held
  exact (frozen.undergoAll continued).published stands (whole.congr same)
    fun member inside => (same member inside).trans (marked member inside)

def planting : List (Incident Text) :=
  [.operation (.createTrie (some false) []),
    .operation (.insert ⟨0, some false, []⟩ (Path.ofText "い".toList) "i".toList),
    .operation (.create (some "か".toList) ⟨"ka".toList, some true⟩),
    .operation (.add 2 (some "ー".toList) ⟨"a".toList, some true⟩),
    .operation (.attach 0 3), .release 2, .operation (.attach 0 3)]

def aftermath : List (Incident Text) :=
  [.operation (.setToken 3 "u".toList),
    .operation (.insert ⟨0, some false, []⟩ (Path.ofText "いぬ".toList) "dog".toList),
    .operation (.duplicateTrie ⟨0, some false, []⟩),
    .operation (.insert ⟨4, some false, []⟩ (Path.ofText "い".toList) "yi".toList),
    .operation (.mergeTries Resolver.ruled ⟨0, some false, []⟩ ⟨4, some false, []⟩),
    .operation (.overlay Resolver.ruled ⟨0, some false, []⟩ (some (.grown ⟨4, some false, []⟩))),
    .release 4]

theorem published_aftermath :
    let start := bare.undergoAll planting
    let trie : RootedTrie Text := ⟨0, some false, []⟩
    bare.AdmitsAll planting ∧ trie ∈ start.tries ∧
      (start.perform (.freeze trie)).AdmitsAll aftermath ∧ .release trie.root ∉ aftermath ∧
      trie.Published start ((start.perform (.freeze trie)).undergoAll aftermath) ∧
      (trie.read start.forest).get (Path.ofText "ー".toList) [] = "a".toList := by
  intro start trie
  have admitted : bare.AdmitsAll planting := by decide +kernel
  have made : trie ∈ start.tries := by decide +kernel
  have continued : (start.perform (.freeze trie)).AdmitsAll aftermath := by decide +kernel
  have held : Incident.release trie.root ∉ aftermath := by simp [aftermath, trie]
  exact ⟨admitted, made, continued, held, published_undergoAll admitted made continued held,
    by decide +kernel⟩

end Woods
end Honji
