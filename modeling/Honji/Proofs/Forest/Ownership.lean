import Honji.Forest.Trie
import Honji.Proofs.Forest.Merging

/-!
Who owns a node. Every child is stored under its own symbol, and its parent is the node that stores
it. Each operation on a forest keeps this, whether it returns or fails half way.
-/

namespace Honji
namespace Forest
variable {α β γ : Type}

structure Owned (forest : Forest α) : Prop where
  linked : ∀ (node : Nat) cell, forest.cell? node = some cell → ∀ link ∈ cell.children,
    ∃ child, forest.cell? link.2 = some child ∧ child.key = some link.1 ∧
      child.parent = some node
  distinct : ∀ (node : Nat) cell, forest.cell? node = some cell → cell.keys.Nodup

/-- A forest became another one, in which nodes are owned and have the symbols they had. -/
structure Evolves (before after : Forest α) : Prop where
  owned : after.Owned
  keys : ∀ (node : Nat) cell, before.cell? node = some cell →
    ∃ later, after.cell? node = some later ∧ later.key = cell.key

variable {before between after forest : Forest α} {node parent : Nat} {symbol : Symbol}

namespace Evolves

theorem refl (owned : forest.Owned) : forest.Evolves forest :=
  ⟨owned, fun _ cell there => ⟨cell, there, rfl⟩⟩

theorem trans (first : before.Evolves between) (second : between.Evolves after) :
    before.Evolves after where
  owned := second.owned
  keys := fun node cell there => by
    obtain ⟨one, found, key⟩ := first.keys node cell there
    obtain ⟨two, foundToo, keyToo⟩ := second.keys node one found
    exact ⟨two, foundToo, keyToo.trans key⟩

theorem bind {first : ForestM α β} {next : β → ForestM α γ}
    (here : before.Evolves (Steps.run first before).2)
    (goesOn : ∀ value between, Steps.run first before = (.ok value, between) →
      between.Owned → between.Evolves (Steps.run (next value) between).2) :
    before.Evolves (Steps.run (first >>= next) before).2 := by
  rw [Steps.run_bind]
  generalize ran : Steps.run first before = outcome at here
  obtain ⟨_ | value, between⟩ := outcome
  · exact here
  · exact here.trans (goesOn value between ran here.owned)

theorem forM {ι : Type} {step : ι → ForestM α Unit} {items : List ι} (kept : Forest α → Prop)
    (lasting : ∀ before after, kept before → before.Evolves after → kept after)
    (each : ∀ item ∈ items, ∀ before : Forest α, kept before → before.Owned →
      before.Evolves (Steps.run (step item) before).2) (start : kept before)
    (owned : before.Owned) : before.Evolves (Steps.run (items.forM step) before).2 := by
  induction items generalizing before with
  | nil => exact refl owned
  | cons item items ih =>
      obtain ⟨here, rest⟩ := List.forall_mem_cons.1 each
      have first := here before start owned
      refine first.bind fun _ between ran owned => ih rest ?_ owned
      have evolves := lasting _ _ start first
      rwa [ran] at evolves

end Evolves

/-! ### Single cells -/

theorem evolves_modify (owned : forest.Owned) {change : Cell α → Cell α}
    (key : ∀ cell, (change cell).key = cell.key)
    (up : ∀ cell parent, forest.cell? node = some cell → cell.parent = some parent →
      (change cell).parent = some parent)
    (links : ∀ cell, forest.cell? node = some cell → ∀ link ∈ (change cell).children,
      ∃ child, forest.cell? link.2 = some child ∧ child.key = some link.1 ∧
        child.parent = some node)
    (distinct : ∀ cell, forest.cell? node = some cell → (change cell).keys.Nodup) :
    forest.Evolves ⟨forest.cells.modify node change⟩ := by
  have later (other : Nat) (cell : Cell α) (there : forest.cell? other = some cell) :
      ∃ later, (⟨forest.cells.modify node change⟩ : Forest α).cell? other = some later ∧
        later.key = cell.key ∧ ∀ parent, cell.parent = some parent →
          later.parent = some parent := by
    rw [cell?_modify, there]
    split
    · next same => exact ⟨_, rfl, key cell, fun parent => up cell parent (same ▸ there)⟩
    · exact ⟨cell, rfl, rfl, fun _ => id⟩
  have stored (other : Nat) (cell : Cell α)
      (there : (⟨forest.cells.modify node change⟩ : Forest α).cell? other = some cell) :
      (∀ link ∈ cell.children, ∃ child, forest.cell? link.2 = some child ∧
        child.key = some link.1 ∧ child.parent = some other) ∧ cell.keys.Nodup := by
    rw [cell?_modify] at there
    split at there
    · next same =>
      obtain ⟨earlier, found, rfl⟩ := Option.map_eq_some_iff.1 there
      subst same
      exact ⟨links earlier found, distinct earlier found⟩
    · exact ⟨owned.linked other cell there, owned.distinct other cell there⟩
  refine ⟨⟨fun other cell there link member => ?_, fun other cell there =>
    (stored other cell there).2⟩, fun other cell there => ?_⟩
  · obtain ⟨child, found, named, parent⟩ := (stored other cell there).1 link member
    obtain ⟨now, here, same, kept⟩ := later link.2 child found
    exact ⟨now, here, same.trans named, kept other parent⟩
  · obtain ⟨now, here, same, -⟩ := later other cell there
    exact ⟨now, here, same⟩

theorem evolves_update (owned : forest.Owned) (node : Nat) (change : Cell α → Cell α)
    (keeps : ∀ cell, (change cell).key = cell.key ∧ (change cell).parent = cell.parent ∧
      (change cell).children = cell.children) :
    forest.Evolves (Steps.run (update node change) forest).2 :=
  evolves_modify owned (fun cell => (keeps cell).1)
    (fun cell _ _ up => (keeps cell).2.1.trans up)
    (fun cell there link member => owned.linked node cell there link ((keeps cell).2.2 ▸ member))
    fun cell there => by
      rw [Cell.keys, (keeps cell).2.2]
      exact owned.distinct node cell there

theorem evolves_grow (owned : forest.Owned) (cell : Cell α) (bare : cell.children = []) :
    forest.Evolves (Steps.run (grow cell) forest).2 := by
  rw [run_grow]
  have kept (other : Nat) (found : Cell α) (there : forest.cell? other = some found) :
      (⟨forest.cells.push cell⟩ : Forest α).cell? other = some found := by
    rw [cell?_push, if_neg (Nat.ne_of_lt (lt_size_of_cell? there)), there]
  refine ⟨⟨fun other found there link member => ?_, fun other found there => ?_⟩,
    fun other found there => ⟨found, kept other found there, rfl⟩⟩
  · rw [cell?_push] at there
    split at there
    · obtain rfl := Option.some.inj there
      simp [bare] at member
    · obtain ⟨child, known, owns⟩ := owned.linked other found there link member
      exact ⟨child, kept _ _ known, owns⟩
  · rw [cell?_push] at there
    split at there
    · obtain rfl := Option.some.inj there
      simp [Cell.keys, bare]
    · exact owned.distinct other found there

theorem notMem_keys {cell : Cell α} (there : forest.cell? node = some cell)
    (free : forest.child? node symbol = none) : symbol ∉ cell.keys := by
  rw [child?, there, Option.bind_some, List.lookup_eq_none_iff] at free
  intro member
  obtain ⟨link, linked, rfl⟩ := List.mem_map.1 member
  simpa using free link linked

theorem evolves_enter (owned : forest.Owned) {child : Nat} {cell : Cell α}
    (there : forest.cell? child = some cell) (key : cell.key = some symbol)
    (up : cell.parent = some parent) (free : forest.child? parent symbol = none) :
    forest.Evolves (Steps.run (enter parent symbol child) forest).2 := by
  refine evolves_modify owned (fun _ => rfl) (fun _ _ _ => id) (fun found known link member => ?_)
    fun found known => ?_
  · rcases List.mem_append.1 member with old | new
    · exact owned.linked parent found known link old
    · obtain rfl := List.mem_singleton.1 new
      exact ⟨cell, there, key, up⟩
  · have fresh := notMem_keys known free
    have apart := owned.distinct parent found known
    simp only [Cell.keys] at fresh apart
    simpa only [Cell.keys, List.map_append, List.map_cons, List.map_nil,
      List.concat_eq_append] using apart.concat fresh

/-! ### Adding children -/

theorem evolves_checkMutable (owned : forest.Owned) (node : Nat) :
    forest.Evolves (Steps.run (checkMutable node) forest).2 := by
  obtain ⟨outcome, ran⟩ := run_checkMutable_cases node forest
  rw [ran]
  exact .refl owned

theorem evolves_growChild (owned : forest.Owned) (free : forest.child? parent symbol = none)
    (entry : Entry α) : forest.Evolves (Steps.run (growChild parent symbol entry) forest).2 := by
  let cell : Cell α := { Cell.loose (some symbol) entry with parent := some parent }
  refine (evolves_grow owned cell rfl).bind fun child between ran owned => ?_
  obtain ⟨same, rfl⟩ := Prod.mk.inj (ran.symm.trans (run_grow cell forest))
  obtain rfl := Except.ok.inj same
  have there : (⟨forest.cells.push cell⟩ : Forest α).cell? forest.cells.size = some cell := by
    rw [cell?_push, if_pos rfl]
  have stillFree : (⟨forest.cells.push cell⟩ : Forest α).child? parent symbol = none := by
    rw [child?, cell?_push]
    split
    · rfl
    · exact free
  exact (evolves_enter owned there rfl rfl stillFree).bind fun _ _ _ owned => .refl owned

theorem evolves_add (owned : forest.Owned) (parent : Nat) (symbol : Symbol) (entry : Entry α) :
    forest.Evolves (Steps.run (add parent symbol entry) forest).2 := by
  rcases run_add_cases parent symbol entry forest with ⟨failure, fails⟩ | ⟨free, grows⟩
  · rw [fails]
    exact .refl owned
  · rw [grows]
    exact evolves_growChild owned free entry

theorem evolves_addKeyed (owned : forest.Owned) (parent : Nat) (key : Option Symbol)
    (entry : Entry α) : forest.Evolves (Steps.run (addKeyed parent key entry) forest).2 := by
  cases key with
  | some symbol => exact evolves_add owned parent symbol entry
  | none => exact (evolves_checkMutable owned parent).bind fun _ _ _ owned => .refl owned

theorem evolves_addMany (owned : forest.Owned) (parent : Nat)
    (rules : List (Option Symbol × α)) :
    forest.Evolves (Steps.run (addMany parent rules) forest).2 := by
  unfold addMany
  induction rules generalizing forest with
  | nil => exact .refl owned
  | cons rule rules ih =>
      rw [List.mapM_cons]
      refine (evolves_addKeyed owned parent rule.1 _).bind fun _ _ _ owned => ?_
      exact (ih owned).bind fun _ _ _ owned => .refl owned

theorem evolves_attach (owned : forest.Owned) (parent child : Nat) :
    forest.Evolves (Steps.run (attach parent child) forest).2 := by
  refine (evolves_checkMutable owned parent).bind fun _ forest _ owned => ?_
  rw [Steps.run_bind_of_ok (Steps.run_get forest)]
  cases there : forest.cell? child with
  | none => exact .refl owned
  | some cell =>
      obtain ⟨key, token, terminal, children, up, frozen⟩ := cell
      rcases key with _ | symbol
      · exact .refl owned
      rcases up with _ | up
      swap
      · exact .refl owned
      simp only
      rw [Steps.run_bind]
      rcases run_checkFree_cases parent symbol forest with ⟨failure, fails⟩ | ⟨free, passes⟩
      · rw [fails]
        exact .refl owned
      rw [passes]
      -- no node stores the child yet, so it may have a parent before it is stored
      let change (cell : Cell α) : Cell α := { cell with parent := some parent }
      have parented : forest.Evolves (Steps.run (update child change) forest).2 :=
        evolves_modify owned (fun _ => rfl)
          (fun cell _ known up => by
            obtain rfl := Option.some.inj (there.symm.trans known)
            cases up)
          (fun cell known => owned.linked child cell known)
          fun cell known => owned.distinct child cell known
      refine parented.bind fun _ between ran owned => ?_
      obtain ⟨-, rfl⟩ := Prod.mk.inj ran
      refine evolves_enter owned (by rw [cell?_modify, if_pos rfl, there]; rfl) rfl rfl ?_
      rw [child?, cell?_modify]
      rw [child?] at free
      split
      · next same =>
        subst same
        rw [there] at free ⊢
        exact free
      · exact free

theorem evolves_setToken (owned : forest.Owned) (node : Nat) (token : α) :
    forest.Evolves (Steps.run (setToken node token) forest).2 :=
  (evolves_checkMutable owned node).bind fun _ _ _ owned =>
    evolves_update owned node _ fun _ => ⟨rfl, rfl, rfl⟩

/-! ### Storing and laying trees -/

theorem evolves_sow {branches : Branches α} (distinct : branches.Distinct) (owned : forest.Owned)
    {cell : Cell α} (there : forest.cell? parent = some cell)
    (fresh : ∀ symbol ∈ branches.keys, symbol ∉ cell.keys) :
    forest.Evolves (Steps.run (sow parent branches) forest).2 := by
  induction branches generalizing forest parent cell with
  | nil => exact .refl owned
  | cons symbol entry below rest belowHyp restHyp =>
      obtain ⟨headFresh, belowDistinct, restDistinct⟩ := distinct
      obtain ⟨here, later⟩ := List.forall_mem_cons.1 fresh
      have free : forest.child? parent symbol = none := by
        rw [child?, there, Option.bind_some, List.lookup_eq_none_iff]
        rintro link member
        have other : symbol ≠ link.1 := fun same => here (same ▸ List.mem_map_of_mem member)
        simpa using other
      have inside := lt_size_of_cell? there
      obtain ⟨one, ran, size, childThere, top, -⟩ := run_growChild there symbol entry
      rw [sow]
      refine (evolves_growChild owned free entry).bind fun child between ranToo owned => ?_
      obtain ⟨same, rfl⟩ := Prod.mk.inj (ran.symm.trans ranToo)
      obtain rfl := Except.ok.inj same
      have under := belowHyp belowDistinct owned childThere (by simp [Cell.keys])
      refine under.bind fun _ between ran owned => ?_
      -- the parent still has only the first of the new siblings
      obtain ⟨two, layout, sowed, -, sown⟩ := run_sow below childThere
      obtain ⟨-, rfl⟩ := Prod.mk.inj (ran.symm.trans sowed)
      refine restHyp restDistinct owned
        ((sown.grows.same parent (by omega) (by simp; omega)).trans top) fun key member => ?_
      simp only [Cell.keys, List.map_append, List.map_cons, List.map_nil, List.mem_append,
        List.mem_singleton, not_or]
      exact ⟨later key member, fun same => headFresh (same ▸ member)⟩

theorem evolves_plant (owned : forest.Owned) (key : Option Symbol) (entry : Entry α)
    {below : Branches α} (distinct : below.Distinct) :
    forest.Evolves (Steps.run (plant key entry below) forest).2 := by
  refine (evolves_grow owned (.loose key entry) rfl).bind fun node between ran owned => ?_
  obtain ⟨same, rfl⟩ := Prod.mk.inj (ran.symm.trans (run_grow _ forest))
  obtain rfl := Except.ok.inj same
  have there : (⟨forest.cells.push (.loose key entry)⟩ : Forest α).cell? forest.cells.size =
      some (.loose key entry) := by
    rw [cell?_push, if_pos rfl]
  exact (evolves_sow distinct owned there (by simp [Cell.loose, Cell.keys])).bind
    fun _ _ _ owned => .refl owned

theorem evolves_duplicate (owned : forest.Owned) (node : Nat) (withChildren : Bool) :
    forest.Evolves (Steps.run (duplicate node withChildren) forest).2 := by
  rw [duplicate, Steps.run_bind_of_ok (Steps.run_get forest)]
  split
  · next cell tree _ _ =>
    cases withChildren with
    | true => exact evolves_plant owned cell.key cell.entry tree.distinct
    | false => exact evolves_plant owned cell.key cell.entry trivial
  · exact .refl owned

theorem exists_child (owned : forest.Owned) {child : Nat}
    (known : forest.child? node symbol = some child) :
    ∃ cell, forest.cell? child = some cell := by
  obtain ⟨cell, there, looked⟩ := Option.bind_eq_some_iff.1 known
  obtain ⟨before, after, parts, -⟩ := List.lookup_eq_some_iff.1 looked
  obtain ⟨found, here, -⟩ := owned.linked node cell there (symbol, child) (by simp [parts])
  exact ⟨found, here⟩

theorem evolves_meet (owned : forest.Owned) (resolve : Resolver α) (node : Nat)
    (other : Sight α) : forest.Evolves (Steps.run (meet resolve node other) forest).2 :=
  (evolves_checkMutable owned node).bind fun _ _ _ owned =>
    evolves_update owned node _ fun _ => ⟨rfl, rfl, rfl⟩

theorem evolves_mergeBelow (resolve : Resolver α) {branches : Branches α}
    (distinct : branches.Distinct) (owned : forest.Owned) {target : Nat} {cell : Cell α}
    (there : forest.cell? target = some cell) :
    forest.Evolves (Steps.run (mergeBelow resolve target branches) forest).2 := by
  induction branches generalizing resolve forest target cell with
  | nil => exact .refl owned
  | cons symbol entry below rest belowHyp restHyp =>
      obtain ⟨-, belowDistinct, restDistinct⟩ := distinct
      have branch : forest.Evolves
          (Steps.run (mergeBranch resolve target symbol entry below) forest).2 := by
        rw [mergeBranch, Steps.run_bind_of_ok (Steps.run_get forest)]
        cases known : forest.child? target symbol with
        | none =>
            refine (evolves_add owned target symbol entry).bind fun child between ran owned => ?_
            rcases run_add_cases target symbol entry forest with ⟨failure, fails⟩ | ⟨-, grows⟩
            · cases ran.symm.trans fails
            obtain ⟨one, grown, -, fresh, -⟩ := run_growChild there symbol entry
            obtain ⟨same, rfl⟩ := Prod.mk.inj (ran.symm.trans (grows.trans grown))
            obtain rfl := Except.ok.inj same
            exact evolves_sow belowDistinct owned fresh (by simp [Cell.keys])
        | some child =>
            obtain ⟨found, stored⟩ := exists_child owned known
            have met := evolves_meet owned (resolve.beneath [symbol] [symbol]) child
              ⟨entry, [], below⟩
            refine met.bind fun _ between ran owned => ?_
            rw [ran] at met
            obtain ⟨now, here, -⟩ := met.keys child found stored
            exact belowHyp _ belowDistinct owned here
      rw [run_mergeBelow_cons]
      refine branch.bind fun _ between ran owned => ?_
      rw [ran] at branch
      obtain ⟨now, here, -⟩ := branch.keys target cell there
      exact restHyp resolve restDistinct owned here

theorem evolves_merge (owned : forest.Owned) (resolve : Resolver α) {target : Nat} {cell : Cell α}
    (there : forest.cell? target = some cell) (source : Nat) :
    forest.Evolves (Steps.run (merge resolve target source) forest).2 := by
  rw [merge, Steps.run_bind_of_ok (Steps.run_get forest)]
  cases forest.tree? source with
  | none => exact .refl owned
  | some tree =>
      have met := evolves_meet owned
        (resolve.beneath (forest.path target) (forest.path source)) target tree.sight
      refine met.bind fun _ between ran owned => ?_
      rw [ran] at met
      obtain ⟨now, here, -⟩ := met.keys target cell there
      exact evolves_mergeBelow _ tree.distinct owned here

theorem evolves_freeze (owned : forest.Owned) (node : Nat) :
    forest.Evolves (Steps.run (freeze node) forest).2 := by
  rw [freeze, Steps.run_bind_of_ok (Steps.run_get forest)]
  exact Evolves.forM (fun _ => True) (fun _ _ _ _ => trivial)
    (fun member _ _ _ owned => evolves_update owned member _ fun _ => ⟨rfl, rfl, rfl⟩) trivial owned

end Forest
end Honji
