import Honji.Proofs.Forest.History
import Honji.Proofs.Forest.Overlay

/-!
What no operation writes. A frozen node has been checked for before each change of its content; only
the parent is set without a check, and only in a node that has a key and no parent yet. All other
frozen nodes are spared, whether the operation returns or fails half way.
-/

namespace Honji

/-- Nothing about the cell can change any more, not even its parent. -/
structure Cell.Fixed {α : Type} (cell : Cell α) : Prop where
  frozen : cell.frozen = true
  placed : cell.key = none ∨ cell.parent ≠ none

namespace Forest
variable {α β γ : Type}

def Spares (before after : Forest α) : Prop :=
  ∀ (node : Nat) cell, before.cell? node = some cell → cell.Fixed → after.cell? node = some cell

variable {before between after forest : Forest α} {node parent : Nat} {symbol : Symbol}

namespace Spares

theorem refl (forest : Forest α) : forest.Spares forest :=
  fun _ _ there _ => there

theorem trans (first : before.Spares between) (second : between.Spares after) :
    before.Spares after :=
  fun node cell there fixed => second node cell (first node cell there fixed) fixed

theorem of_grows {touched : List Nat} (grows : Grows touched before after)
    (changeable : before.Changeable touched) : before.Spares after := by
  intro node cell there fixed
  rw [grows.same node (lt_size_of_cell? there) fun member => ?_, there]
  exact Bool.noConfusion ((changeable node member cell there).symm.trans fixed.frozen)

theorem bind {first : ForestM α β} {next : β → ForestM α γ}
    (here : before.Spares (Steps.run first before).2)
    (goesOn : ∀ value between, Steps.run first before = (.ok value, between) →
      between.Spares (Steps.run (next value) between).2) :
    before.Spares (Steps.run (first >>= next) before).2 := by
  rw [Steps.run_bind]
  generalize ran : Steps.run first before = outcome at here
  obtain ⟨_ | value, between⟩ := outcome
  · exact here
  · exact here.trans (goesOn value between ran)

theorem forM {ι : Type} {step : ι → ForestM α Unit} (items : List ι)
    (each : ∀ item (before : Forest α), before.Spares (Steps.run (step item) before).2) :
    before.Spares (Steps.run (items.forM step) before).2 := by
  induction items generalizing before with
  | nil => exact refl before
  | cons item items ih => exact (each item before).bind fun _ _ _ => ih

theorem modify {change : Cell α → Cell α}
    (unfixed : ∀ cell, forest.cell? node = some cell → ¬ cell.Fixed) :
    forest.Spares ⟨forest.cells.modify node change⟩ := by
  intro other cell there fixed
  rw [cell?_modify, if_neg, there]
  rintro rfl
  exact unfixed cell there fixed

end Spares

theorem Changeable.unfixed (changeable : forest.Changeable [node]) :
    ∀ cell, forest.cell? node = some cell → ¬ cell.Fixed := fun cell there fixed =>
  Bool.noConfusion ((changeable node List.mem_cons_self cell there).symm.trans fixed.frozen)

/-! ### Checks -/

theorem spares_checked {rest : Unit → ForestM α β}
    (goesOn : forest.Changeable [node] → forest.Spares (Steps.run (rest ()) forest).2) :
    forest.Spares (Steps.run (checkMutable node >>= rest) forest).2 := by
  rcases checkMutable_cases node forest with ⟨-, fails⟩ | ⟨changeable, passes⟩
  · rw [Steps.run_bind, fails]
    exact .refl forest
  · rw [Steps.run_bind_of_ok passes]
    exact goesOn changeable

/-! ### Operations on nodes -/

theorem spares_grow (cell : Cell α) (forest : Forest α) :
    forest.Spares (Steps.run (grow cell) forest).2 := by
  intro node found there _
  rw [run_grow, cell?_push, if_neg (Nat.ne_of_lt (lt_size_of_cell? there)), there]

theorem growChild_spares (changeable : forest.Changeable [parent]) (symbol : Symbol)
    (entry : Entry α) : ∃ after cell,
      Steps.run (growChild parent symbol entry) forest = (.ok forest.cells.size, after) ∧
        forest.Spares after ∧ after.cell? forest.cells.size = some cell ∧
        cell.frozen = false := by
  let child : Cell α := { Cell.loose (some symbol) entry with parent := some parent }
  let pushed : Forest α := ⟨forest.cells.push child⟩
  let enter (cell : Cell α) : Cell α :=
    { cell with children := cell.children ++ [(symbol, forest.cells.size)] }
  have unfixed : ∀ cell, pushed.cell? parent = some cell → ¬ cell.Fixed := by
    intro cell there fixed
    rw [cell?_push] at there
    split at there
    · obtain rfl := Option.some.inj there
      exact Bool.noConfusion fixed.frozen
    · exact changeable.unfixed cell there fixed
  have spared : forest.Spares pushed := spares_grow child forest
  refine ⟨⟨pushed.cells.modify parent enter⟩, if parent = forest.cells.size then enter child
    else child, rfl, spared.trans (.modify unfixed), ?_, ?_⟩
  · rw [cell?_modify, cell?_push, if_pos rfl]
    split <;> rfl
  · split <;> rfl

theorem add_spares (parent : Nat) (symbol : Symbol) (entry : Entry α) (forest : Forest α) :
    (∃ failure, Steps.run (add parent symbol entry) forest = (.error failure, forest)) ∨
      ∃ after cell, Steps.run (add parent symbol entry) forest = (.ok forest.cells.size, after) ∧
        forest.Spares after ∧ after.cell? forest.cells.size = some cell ∧
        cell.frozen = false := by
  rw [add, Steps.run_bind]
  rcases checkMutable_cases parent forest with ⟨-, fails⟩ | ⟨changeable, passes⟩
  · exact .inl ⟨_, by rw [fails]⟩
  · simp only [passes, Steps.run_bind]
    rcases run_checkFree_cases parent symbol forest with ⟨failure, fails⟩ | ⟨-, free⟩
    · exact .inl ⟨failure, by rw [fails]⟩
    · rw [free]
      exact .inr (growChild_spares changeable symbol entry)

theorem spares_add (parent : Nat) (symbol : Symbol) (entry : Entry α) (forest : Forest α) :
    forest.Spares (Steps.run (add parent symbol entry) forest).2 := by
  rcases add_spares parent symbol entry forest with ⟨failure, fails⟩ | ⟨after, -, ran, spares, -⟩
  · rw [fails]
    exact .refl forest
  · rw [ran]
    exact spares

theorem spares_addKeyed (parent : Nat) (key : Option Symbol) (entry : Entry α)
    (forest : Forest α) : forest.Spares (Steps.run (addKeyed parent key entry) forest).2 := by
  cases key with
  | some symbol => exact spares_add parent symbol entry forest
  | none => exact spares_checked fun _ => .refl forest

theorem spares_addMany (parent : Nat) (rules : List (Option Symbol × α)) (forest : Forest α) :
    forest.Spares (Steps.run (addMany parent rules) forest).2 := by
  unfold addMany
  induction rules generalizing forest with
  | nil => exact .refl forest
  | cons rule rules ih =>
      rw [List.mapM_cons]
      refine (spares_addKeyed parent rule.1 _ forest).bind fun _ between _ => ?_
      exact (ih between).bind fun _ between _ => .refl between

theorem spares_setToken (node : Nat) (token : α) (forest : Forest α) :
    forest.Spares (Steps.run (setToken node token) forest).2 :=
  spares_checked fun changeable => .modify changeable.unfixed

theorem spares_meet (resolve : Resolver α) (node : Nat) (other : Sight α) (forest : Forest α) :
    forest.Spares (Steps.run (meet resolve node other) forest).2 :=
  spares_checked fun changeable => .modify changeable.unfixed

theorem spares_attach (parent child : Nat) (forest : Forest α) :
    forest.Spares (Steps.run (attach parent child) forest).2 := by
  refine spares_checked fun changeable => ?_
  rw [Steps.run_bind_of_ok (Steps.run_get forest)]
  cases there : forest.cell? child with
  | none => exact .refl forest
  | some cell =>
      obtain ⟨_ | symbol, token, terminal, children, _ | up, frozen⟩ := cell
      · exact .refl forest
      · exact .refl forest
      · simp only
        rw [Steps.run_bind]
        rcases run_checkFree_cases parent symbol forest with ⟨failure, fails⟩ | ⟨-, passes⟩
        · rw [fails]
          exact .refl forest
        rw [passes]
        -- the child has a key and no parent, and so it is not fixed, frozen or not
        let change (cell : Cell α) : Cell α := { cell with parent := some parent }
        have parented : forest.Spares (Steps.run (update child change) forest).2 :=
          .modify fun cell known fixed => by
            obtain rfl := Option.some.inj (there.symm.trans known)
            simpa using fixed.placed
        refine parented.bind fun _ between ran => ?_
        obtain ⟨-, rfl⟩ := Prod.mk.inj ran
        refine .modify fun cell known fixed => ?_
        rw [cell?_modify] at known
        split at known
        · next same =>
          subst same
          obtain ⟨earlier, found, rfl⟩ := Option.map_eq_some_iff.1 known
          exact Bool.noConfusion
            ((changeable child List.mem_cons_self earlier found).symm.trans fixed.frozen)
        · exact changeable.unfixed cell known fixed
      · exact .refl forest

/-! ### Storing and laying trees -/

theorem spares_sow {cell : Cell α} (there : forest.cell? node = some cell)
    (changeable : cell.frozen = false) (branches : Branches α) :
    forest.Spares (Steps.run (sow node branches) forest).2 := by
  obtain ⟨after, layout, ran, -, sown⟩ := run_sow branches there
  rw [ran]
  refine .of_grows sown.grows fun member inside found known => ?_
  obtain rfl := List.mem_singleton.1 inside
  obtain rfl := Option.some.inj (there.symm.trans known)
  exact changeable

theorem spares_plant (key : Option Symbol) (tree : Node α) (forest : Forest α) :
    forest.Spares (Steps.run (plant key tree.entry tree.below) forest).2 := by
  obtain ⟨after, ran, gained⟩ := run_plant key tree forest
  rw [ran]
  exact .of_grows gained.grows (by simp [Changeable])

theorem spares_duplicate (node : Nat) (withChildren : Bool) (forest : Forest α) :
    forest.Spares (Steps.run (duplicate node withChildren) forest).2 := by
  rw [duplicate, Steps.run_bind_of_ok (Steps.run_get forest)]
  split
  · next cell tree _ _ =>
    cases withChildren with
    | true => exact spares_plant cell.key ⟨cell.entry, tree.below, tree.distinct⟩ forest
    | false => exact spares_plant cell.key (.leaf cell.entry) forest
  · exact .refl forest

theorem spares_mergeBelow (resolve : Resolver α) (target : Nat) (branches : Branches α)
    (forest : Forest α) :
    forest.Spares (Steps.run (mergeBelow resolve target branches) forest).2 := by
  induction branches generalizing resolve forest target with
  | nil => exact .refl forest
  | cons symbol entry below rest belowHyp restHyp =>
      rw [run_mergeBelow_cons, mergeBranch]
      refine .bind ?_ fun _ between _ => restHyp resolve target between
      rw [Steps.run_bind_of_ok (Steps.run_get forest)]
      cases forest.child? target symbol with
      | some child =>
          refine Spares.bind (spares_meet _ child _ forest) fun _ between _ => ?_
          exact belowHyp _ child between
      | none =>
          simp only
          rw [Steps.run_bind]
          rcases add_spares target symbol entry forest with
            ⟨failure, fails⟩ | ⟨after, cell, ran, spares, there, changeable⟩
          · rw [fails]
            exact .refl forest
          · rw [ran]
            exact spares.trans (spares_sow there changeable below)

theorem spares_merge (resolve : Resolver α) (target source : Nat) (forest : Forest α) :
    forest.Spares (Steps.run (merge resolve target source) forest).2 := by
  rw [merge, Steps.run_bind_of_ok (Steps.run_get forest)]
  cases forest.tree? source with
  | none => exact .refl forest
  | some tree =>
      refine Spares.bind (spares_meet _ target tree.sight forest) fun _ between _ => ?_
      exact spares_mergeBelow _ target tree.below between

theorem spares_freeze (node : Nat) (forest : Forest α) :
    forest.Spares (Steps.run (freeze node) forest).2 := by
  rw [freeze, Steps.run_bind_of_ok (Steps.run_get forest)]
  refine .forM _ fun member before other cell there fixed => ?_
  refine (cell?_modify before member _ other).trans ?_
  rw [there]
  split
  · obtain ⟨key, token, terminal, children, parent, frozen⟩ := cell
    obtain rfl : frozen = true := fixed.frozen
    rfl
  · rfl

end Forest

/-! ### Operations on tries -/

namespace RootedTrie
variable {α : Type} (trie : RootedTrie α) (forest : Forest α)

theorem spares_childOrNew (node : NodeId) (symbol : Symbol) :
    forest.Spares (Steps.run (trie.childOrNew node symbol) forest).2 := by
  rw [childOrNew, Steps.run_bind_of_ok (Steps.run_get forest)]
  split
  · exact .refl forest
  · exact Forest.spares_add node (trie.normalize symbol) _ forest

theorem spares_walk (path : Path) (node : NodeId) :
    forest.Spares (Steps.run (path.foldlM trie.childOrNew node) forest).2 := by
  induction path generalizing forest node with
  | nil => exact .refl forest
  | cons symbol path ih =>
      rw [List.foldlM_cons]
      exact (trie.spares_childOrNew forest node symbol).bind fun child between _ =>
        ih between child

theorem spares_insert (path : Path) (token : α) :
    forest.Spares (Steps.run (trie.insert path token) forest).2 := by
  unfold insert
  split
  · exact .refl forest
  · refine (trie.spares_walk forest path trie.root).bind fun node between _ => ?_
    simp only [Forest.setToken, bind_assoc]
    refine Forest.spares_checked fun changeable => ?_
    refine (Forest.Spares.modify changeable.unfixed).bind fun _ relabelled ran => ?_
    obtain ⟨-, rfl⟩ := Prod.mk.inj ran
    -- the flag is set without a check, in a node that could be changed just before
    have relabels := Forest.Grows.modify between node ({ · with token := token })
      fun _ => ⟨rfl, rfl, rfl⟩
    have still : Forest.Changeable _ [node] := changeable.grow relabels fun _ => .inl
    exact (Forest.Spares.modify still.unfixed).bind fun _ ended _ => .refl ended

theorem spares_create (caseInsensitive : Choice) (placeholder : α) :
    forest.Spares (Steps.run (create caseInsensitive placeholder) forest).2 :=
  Forest.Spares.bind (Forest.spares_grow _ forest) fun _ between _ => .refl between

variable [Token α]

theorem spares_ofSource (caseInsensitive : Choice) (source : RuleSource α) :
    forest.Spares (Steps.run (ofSource caseInsensitive source) forest).2 := by
  cases source with
  | grown trie => exact .refl forest
  | written mapping =>
      rw [ofSource, Steps.run_bind, Steps.run_lift]
      cases mapping.toTrie caseInsensitive.taken with
      | error failure => exact .refl forest
      | ok rules =>
          refine Forest.Spares.bind (Forest.spares_plant none rules.root forest) ?_
          exact fun _ between _ => .refl between

theorem spares_merged (resolve : Resolver α) (tries : List (RootedTrie α))
    (caseInsensitive : Choice) :
    forest.Spares (Steps.run (merged resolve tries caseInsensitive) forest).2 := by
  refine (spares_create forest _ _).bind fun result between _ => ?_
  refine Forest.Spares.bind (.forM tries fun trie before =>
    Forest.spares_merge resolve result.root trie.root before) fun _ ended _ => .refl ended

theorem spares_overlay (resolve : Resolver α) (base : RootedTrie α)
    (source : Option (RuleSource α)) :
    forest.Spares (Steps.run (base.overlay resolve source) forest).2 := by
  cases source with
  | none => exact .refl forest
  | some source =>
      refine Forest.Spares.bind (spares_ofSource forest base.caseInsensitive source) ?_
      exact fun rules between _ => spares_merged between resolve [base, rules] none

end RootedTrie

namespace Operation
variable {α : Type} {forest : Forest α}

theorem spares_silent {β : Type} {steps : ForestM α β}
    (spares : forest.Spares (Steps.run steps forest).2) :
    forest.Spares (Steps.run (silent steps) forest).2 := by
  have quiet : forest.Spares (Steps.run (discard steps) forest).2 :=
    spares.bind fun _ between _ => .refl between
  exact quiet.bind fun _ between _ => .refl between

theorem spares_making {steps : ForestM α (RootedTrie α)}
    (spares : forest.Spares (Steps.run steps forest).2) :
    forest.Spares (Steps.run (making steps) forest).2 :=
  spares.bind fun _ between _ => .refl between

theorem spares_act [Token α] (operation : Operation α) (forest : Forest α) :
    forest.Spares (Steps.run operation.act forest).2 := by
  cases operation with
  | create key entry => exact spares_silent (Forest.spares_grow (.loose key entry) forest)
  | add parent key entry => exact spares_silent (Forest.spares_addKeyed parent key entry forest)
  | addMany parent rules => exact spares_silent (Forest.spares_addMany parent rules forest)
  | attach parent child => exact spares_silent (Forest.spares_attach parent child forest)
  | setToken node token => exact spares_silent (Forest.spares_setToken node token forest)
  | duplicate node withChildren =>
      exact spares_silent (Forest.spares_duplicate node withChildren forest)
  | merge resolve target source =>
      exact spares_silent (Forest.spares_merge resolve target source forest)
  | createTrie caseInsensitive placeholder =>
      exact spares_making (RootedTrie.spares_create forest caseInsensitive placeholder)
  | insert trie path token => exact spares_silent (trie.spares_insert forest path token)
  | freeze trie => exact spares_silent (Forest.spares_freeze trie.root forest)
  | duplicateTrie trie =>
      exact spares_making ((Forest.spares_duplicate trie.root true forest).bind
        fun _ between _ => .refl between)
  | mergeTries resolve target source =>
      exact spares_silent (Forest.spares_merge resolve target.root source.root forest)
  | ofSource caseInsensitive source =>
      exact spares_making (RootedTrie.spares_ofSource forest caseInsensitive source)
  | merged resolve tries caseInsensitive =>
      exact spares_making (RootedTrie.spares_merged forest resolve tries caseInsensitive)
  | overlay resolve base source =>
      exact spares_making (RootedTrie.spares_overlay forest resolve base source)

end Operation
end Honji
