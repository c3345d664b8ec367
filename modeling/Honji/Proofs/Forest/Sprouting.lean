import Honji.Proofs.Forest.Ancestry

/-!
How a forest sprouts. Apart from an attachment and a freezing, every operation leaves each node its
key, its parent and its mark; children are added behind those that are there, and a new node can be
changed and is stored by one that was there before it, or by nobody. This holds of operations that
fail half way, too.
-/

namespace Honji

/-- A cell keeps its key, its parent and its mark; its children come first among the later ones. -/
structure Cell.Extends {α : Type} (cell later : Cell α) : Prop where
  key : later.key = cell.key
  parent : later.parent = cell.parent
  frozen : later.frozen = cell.frozen
  children : cell.children <+: later.children

namespace Cell.Extends
variable {α : Type} {cell one two : Cell α}

theorem refl (cell : Cell α) : cell.Extends cell :=
  ⟨rfl, rfl, rfl, List.prefix_refl _⟩

theorem trans (first : cell.Extends one) (second : one.Extends two) : cell.Extends two :=
  ⟨second.key.trans first.key, second.parent.trans first.parent,
    second.frozen.trans first.frozen, first.children.trans second.children⟩

end Cell.Extends

namespace Forest
variable {α β γ : Type}

def Linked (forest : Forest α) : Prop :=
  ∀ parent child : Nat, child ∈ forest.childrenOf parent → child < forest.cells.size

theorem Owned.linked_children {forest : Forest α} (owned : forest.Owned) : forest.Linked := by
  intro parent child stored
  obtain ⟨cell, there, -⟩ := owned.exists_stored stored
  exact lt_size_of_cell? there

structure Sprouts (before after : Forest α) : Prop where
  size : before.cells.size ≤ after.cells.size
  kept : ∀ (node : Nat) cell, before.cell? node = some cell →
    ∃ later, after.cell? node = some later ∧ cell.Extends later
  new : ∀ (node : Nat) cell, before.cells.size ≤ node → after.cell? node = some cell →
    cell.frozen = false ∧ ∀ parent, cell.parent = some parent →
      parent < node ∧ node ∈ after.childrenOf parent
  led : ∀ (parent : Nat) symbol (child : Nat), after.child? parent symbol = some child →
    child < before.cells.size → before.child? parent symbol = some child
  linked : before.Linked → after.Linked

variable {before between after forest : Forest α} {node parent target : Nat} {symbol : Symbol}

namespace Sprouts

theorem childrenOf (sprouts : before.Sprouts after) {child : Nat}
    (stored : child ∈ before.childrenOf parent) : child ∈ after.childrenOf parent := by
  obtain ⟨cell, there, member⟩ := exists_storer stored
  obtain ⟨later, found, extended⟩ := sprouts.kept parent cell there
  obtain ⟨added, parts⟩ := extended.children
  refine (mem_childrenOf found).2 ?_
  rw [← parts, List.map_append]
  exact List.mem_append_left _ member

theorem refl (forest : Forest α) : forest.Sprouts forest where
  size := Nat.le_refl _
  kept := fun _ cell there => ⟨cell, there, .refl cell⟩
  new := fun _ _ beyond there => absurd (lt_size_of_cell? there) (Nat.not_lt.2 beyond)
  led := fun _ _ _ led _ => led
  linked := id

theorem trans (first : before.Sprouts between) (second : between.Sprouts after) :
    before.Sprouts after where
  size := Nat.le_trans first.size second.size
  kept := fun node cell there => by
    obtain ⟨one, found, extended⟩ := first.kept node cell there
    obtain ⟨two, foundToo, extendedToo⟩ := second.kept node one found
    exact ⟨two, foundToo, extended.trans extendedToo⟩
  new := fun node cell beyond there => by
    by_cases inside : node < between.cells.size
    · obtain ⟨one, found⟩ := exists_cell_of_lt inside
      obtain ⟨two, foundToo, extended⟩ := second.kept node one found
      obtain rfl := Option.some.inj (there.symm.trans foundToo)
      obtain ⟨mutable, placed⟩ := first.new node one beyond found
      refine ⟨extended.frozen.trans mutable, fun parent known => ?_⟩
      obtain ⟨earlier, stored⟩ := placed parent (extended.parent.symm.trans known)
      exact ⟨earlier, second.childrenOf stored⟩
    · exact second.new node cell (Nat.not_lt.1 inside) there
  led := fun parent symbol child led old => first.led parent symbol child
    (second.led parent symbol child led (Nat.lt_of_lt_of_le old first.size)) old
  linked := second.linked ∘ first.linked

theorem bind {first : ForestM α β} {next : β → ForestM α γ}
    (here : before.Sprouts (Steps.run first before).2)
    (goesOn : ∀ value between, Steps.run first before = (.ok value, between) →
      before.Sprouts between → between.Sprouts (Steps.run (next value) between).2) :
    before.Sprouts (Steps.run (first >>= next) before).2 := by
  rw [Steps.run_bind]
  generalize ran : Steps.run first before = outcome at here
  obtain ⟨_ | value, between⟩ := outcome
  · exact here
  · exact here.trans (goesOn value between ran here)

theorem lt_size (sprouts : before.Sprouts after) (inside : node < before.cells.size) :
    node < after.cells.size :=
  Nat.lt_of_lt_of_le inside sprouts.size

end Sprouts

/-! ### Operations on nodes -/

theorem sprouts_checkMutable (node : Nat) (forest : Forest α) :
    forest.Sprouts (Steps.run (checkMutable node) forest).2 := by
  obtain ⟨outcome, ran⟩ := run_checkMutable_cases node forest
  rw [ran]
  exact .refl forest

theorem childrenOf_modify (node : Nat) (change : Cell α → Cell α) (forest : Forest α)
    (keeps : ∀ cell, (change cell).children = cell.children) (other : Nat) :
    (⟨forest.cells.modify node change⟩ : Forest α).childrenOf other = forest.childrenOf other := by
  rw [childrenOf, childrenOf, cell?_modify]
  split
  · cases forest.cell? other with
    | none => rfl
    | some cell => simp [keeps cell]
  · rfl

theorem sprouts_update (node : Nat) {change : Cell α → Cell α} (forest : Forest α)
    (keeps : ∀ cell, (change cell).key = cell.key ∧ (change cell).parent = cell.parent ∧
      (change cell).frozen = cell.frozen ∧ (change cell).children = cell.children) :
    forest.Sprouts (Steps.run (update node change) forest).2 := by
  let after : Forest α := ⟨forest.cells.modify node change⟩
  have size : after.cells.size = forest.cells.size := by simp [after]
  have children (other : Nat) : after.childrenOf other = forest.childrenOf other :=
    childrenOf_modify node change forest (fun cell => (keeps cell).2.2.2) other
  have same (other : Nat) (symbol : Symbol) : after.child? other symbol =
      forest.child? other symbol := by
    rw [child?, child?, cell?_modify]
    split
    · cases forest.cell? other with
      | none => rfl
      | some cell => simp [(keeps cell).2.2.2]
    · rfl
  have sprouts : forest.Sprouts after := by
    refine ⟨Nat.le_of_eq size.symm, fun other cell there => ?_, fun other cell beyond there => ?_,
      fun other symbol child led _ => same other symbol ▸ led, fun linked other child stored => ?_⟩
    · rw [cell?_modify, there]
      obtain ⟨key, parent, frozen, children⟩ := keeps cell
      split
      · exact ⟨_, rfl, key, parent, frozen, children ▸ List.prefix_refl _⟩
      · exact ⟨cell, rfl, .refl cell⟩
    · have inside := lt_size_of_cell? there
      omega
    · exact size ▸ linked other child (children other ▸ stored)
  exact sprouts

theorem sprouts_grow {cell : Cell α} (forest : Forest α) (loose : cell.parent = none)
    (bare : cell.children = []) (changeable : cell.frozen = false) :
    forest.Sprouts (Steps.run (grow cell) forest).2 := by
  let after : Forest α := ⟨forest.cells.push cell⟩
  have size : after.cells.size = forest.cells.size + 1 := by simp [after]
  have same (other : Nat) (symbol : Symbol) : after.child? other symbol =
      forest.child? other symbol := by
    rw [child?, child?, cell?_push]
    split
    · next new => simp [bare, cell?_eq_none_iff.2 (Nat.le_of_eq new.symm)]
    · rfl
  have sprouts : forest.Sprouts after := by
    refine ⟨by omega, fun other found there => ?_, fun other found beyond there => ?_,
      fun other symbol child led _ => same other symbol ▸ led, fun linked other child stored => ?_⟩
    · rw [cell?_push, if_neg (Nat.ne_of_lt (lt_size_of_cell? there))]
      exact ⟨found, there, .refl found⟩
    · have inside := lt_size_of_cell? there
      obtain rfl : other = forest.cells.size := by omega
      rw [cell?_push, if_pos rfl] at there
      obtain rfl := Option.some.inj there
      exact ⟨changeable, fun parent up => by rw [loose] at up; cases up⟩
    · obtain ⟨found, there, member⟩ := exists_storer stored
      rw [cell?_push] at there
      split at there
      · obtain rfl := Option.some.inj there
        simp [bare] at member
      · have known := linked other child ((mem_childrenOf there).2 member)
        omega
  exact sprouts

theorem Grows.cell_cases {after : Forest α} {other : Nat} {top child found : Cell α}
    (grows : Grows [parent] forest after) (size : after.cells.size = forest.cells.size + 1)
    (storer : after.cell? parent = some top) (last : after.cell? forest.cells.size = some child)
    (known : after.cell? other = some found) :
    (other = parent ∧ found = top) ∨ (other = forest.cells.size ∧ found = child) ∨
      forest.cell? other = some found := by
  have bound := lt_size_of_cell? known
  by_cases storing : other = parent
  · subst storing
    exact .inl ⟨rfl, Option.some.inj (known.symm.trans storer)⟩
  · by_cases new : other = forest.cells.size
    · subst new
      exact .inr (.inl ⟨rfl, Option.some.inj (known.symm.trans last)⟩)
    · have same := grows.same other (by omega) (by simpa using storing)
      exact .inr (.inr (same ▸ known))

theorem sprouts_growChild (inside : parent < forest.cells.size) (symbol : Symbol)
    (entry : Entry α) : forest.Sprouts (Steps.run (growChild parent symbol entry) forest).2 := by
  obtain ⟨cell, there⟩ := exists_cell_of_lt inside
  obtain ⟨after, ran, size, child, top, grows⟩ := run_growChild there symbol entry
  have sprouts : forest.Sprouts after := by
    refine ⟨grows.size, fun other found known => ?_, fun other found beyond known => ?_,
      fun other key below led old => ?_, fun linked other below stored => ?_⟩
    · by_cases storing : other = parent
      · subst storing
        obtain rfl := Option.some.inj (there.symm.trans known)
        exact ⟨_, top, rfl, rfl, rfl, List.prefix_append _ _⟩
      · have same := grows.same other (lt_size_of_cell? known) (by simpa using storing)
        exact ⟨found, same.trans known, .refl found⟩
    · have bound := lt_size_of_cell? known
      obtain rfl : other = forest.cells.size := by omega
      obtain rfl := Option.some.inj (child.symm.trans known)
      refine ⟨rfl, fun up same => ?_⟩
      obtain rfl := Option.some.inj same
      exact ⟨inside, (mem_childrenOf top).2 (by simp)⟩
    · obtain ⟨found, known, looked⟩ := Option.bind_eq_some_iff.1 led
      rcases grows.cell_cases size top child known with ⟨rfl, rfl⟩ | ⟨rfl, rfl⟩ | earlier
      · rw [List.lookup_append, Option.or_eq_some_iff] at looked
        rcases looked with looked | ⟨-, new⟩
        · rw [child?, there, Option.bind_some, looked]
        · rw [List.lookup_cons] at new
          split at new
          · obtain rfl := Option.some.inj new
            exact absurd old (Nat.lt_irrefl _)
          · cases new
      · cases looked
      · rw [child?, earlier, Option.bind_some, looked]
    · obtain ⟨found, known, member⟩ := exists_storer stored
      rcases grows.cell_cases size top child known with ⟨rfl, rfl⟩ | ⟨rfl, rfl⟩ | earlier
      · simp only [List.map_append, List.mem_append, List.map_cons, List.map_nil,
          List.mem_singleton] at member
        rcases member with member | rfl
        · have old := linked other below ((mem_childrenOf there).2 member)
          omega
        · omega
      · simp at member
      · have old := linked other below ((mem_childrenOf earlier).2 member)
        omega
  rw [ran]
  exact sprouts

theorem sprouts_add (inside : parent < forest.cells.size) (symbol : Symbol) (entry : Entry α) :
    forest.Sprouts (Steps.run (add parent symbol entry) forest).2 := by
  rcases run_add_cases parent symbol entry forest with ⟨failure, fails⟩ | ⟨-, grows⟩
  · rw [fails]
    exact .refl forest
  · rw [grows]
    exact sprouts_growChild inside symbol entry

theorem lt_size_of_run_add (inside : parent < forest.cells.size) {entry : Entry α} {child : Nat}
    (ran : Steps.run (add parent symbol entry) forest = (.ok child, after)) :
    child < after.cells.size := by
  rcases run_add_cases parent symbol entry forest with ⟨failure, fails⟩ | ⟨-, same⟩
  · cases ran.symm.trans fails
  · obtain ⟨cell, there⟩ := exists_cell_of_lt inside
    obtain ⟨grown, grew, size, -⟩ := run_growChild there symbol entry
    obtain ⟨made, rfl⟩ := Prod.mk.inj (ran.symm.trans (same.trans grew))
    obtain rfl := Except.ok.inj made
    omega

theorem child?_of_run_add (inside : parent < forest.cells.size) {entry : Entry α} {child : Nat}
    (ran : Steps.run (add parent symbol entry) forest = (.ok child, after)) :
    after.child? parent symbol = some child := by
  rcases run_add_cases parent symbol entry forest with ⟨failure, fails⟩ | ⟨free, same⟩
  · cases ran.symm.trans fails
  · obtain ⟨cell, there⟩ := exists_cell_of_lt inside
    obtain ⟨grown, grew, -, -, top, -⟩ := run_growChild there symbol entry
    obtain ⟨made, rfl⟩ := Prod.mk.inj (ran.symm.trans (same.trans grew))
    obtain rfl := Except.ok.inj made
    rw [child?, there, Option.bind_some] at free
    simp [child?, top, List.lookup_append, free]

theorem sprouts_addKeyed (inside : parent < forest.cells.size) (key : Option Symbol)
    (entry : Entry α) : forest.Sprouts (Steps.run (addKeyed parent key entry) forest).2 := by
  cases key with
  | some symbol => exact sprouts_add inside symbol entry
  | none => exact (sprouts_checkMutable parent forest).bind fun _ between _ _ => .refl between

theorem sprouts_addMany (inside : parent < forest.cells.size)
    (rules : List (Option Symbol × α)) :
    forest.Sprouts (Steps.run (addMany parent rules) forest).2 := by
  unfold addMany
  induction rules generalizing forest with
  | nil => exact .refl forest
  | cons rule rules ih =>
      rw [List.mapM_cons]
      refine (sprouts_addKeyed inside rule.1 _).bind fun _ between _ sprouts => ?_
      exact (ih (sprouts.lt_size inside)).bind fun _ between _ _ => .refl between

theorem sprouts_setToken (node : Nat) (token : α) (forest : Forest α) :
    forest.Sprouts (Steps.run (setToken node token) forest).2 :=
  (sprouts_checkMutable node forest).bind fun _ between _ _ =>
    sprouts_update node between fun _ => ⟨rfl, rfl, rfl, rfl⟩

/-! ### Storing and laying trees -/

theorem sprouts_sow (branches : Branches α) (inside : parent < forest.cells.size) :
    forest.Sprouts (Steps.run (sow parent branches) forest).2 := by
  induction branches generalizing forest parent with
  | nil => exact .refl forest
  | cons symbol entry below rest belowHyp restHyp =>
      obtain ⟨cell, there⟩ := exists_cell_of_lt inside
      obtain ⟨grown, grew, size, -⟩ := run_growChild there symbol entry
      rw [sow]
      refine (sprouts_growChild inside symbol entry).bind fun child between ran sprouts => ?_
      obtain ⟨made, rfl⟩ := Prod.mk.inj (ran.symm.trans grew)
      obtain rfl := Except.ok.inj made
      refine (belowHyp (by omega)).bind fun _ later _ further => ?_
      exact restHyp (further.lt_size (sprouts.lt_size inside))

theorem sprouts_plant (key : Option Symbol) (entry : Entry α) (below : Branches α)
    (forest : Forest α) : forest.Sprouts (Steps.run (plant key entry below) forest).2 := by
  refine (sprouts_grow forest rfl rfl rfl).bind fun node between ran _ => ?_
  obtain ⟨made, rfl⟩ := Prod.mk.inj (ran.symm.trans (run_grow _ forest))
  obtain rfl := Except.ok.inj made
  exact (sprouts_sow below (by simp)).bind fun _ later _ _ => .refl later

theorem sprouts_duplicate (node : Nat) (withChildren : Bool) (forest : Forest α) :
    forest.Sprouts (Steps.run (duplicate node withChildren) forest).2 := by
  rw [duplicate, Steps.run_bind_of_ok (Steps.run_get forest)]
  split
  · exact sprouts_plant _ _ _ forest
  · exact .refl forest

theorem sprouts_meet (resolve : Resolver α) (node : Nat) (other : Sight α) (forest : Forest α) :
    forest.Sprouts (Steps.run (meet resolve node other) forest).2 :=
  (sprouts_checkMutable node forest).bind fun _ between _ _ =>
    sprouts_update node between fun _ => ⟨rfl, rfl, rfl, rfl⟩

theorem sprouts_mergeBelow (resolve : Resolver α) (branches : Branches α)
    (inside : target < forest.cells.size) (linked : forest.Linked) :
    forest.Sprouts (Steps.run (mergeBelow resolve target branches) forest).2 := by
  induction branches generalizing resolve forest target with
  | nil => exact .refl forest
  | cons symbol entry below rest belowHyp restHyp =>
      rw [run_mergeBelow_cons, mergeBranch]
      refine .bind ?_ fun _ between _ sprouts =>
        restHyp resolve (sprouts.lt_size inside) (sprouts.linked linked)
      rw [Steps.run_bind_of_ok (Steps.run_get forest)]
      cases led : forest.child? target symbol with
      | some child =>
          have there := linked target child (mem_childrenOf_of_child? led)
          refine (sprouts_meet _ child _ forest).bind fun _ between _ sprouts => ?_
          exact belowHyp _ (sprouts.lt_size there) (sprouts.linked linked)
      | none =>
          refine (sprouts_add inside symbol entry).bind fun child between ran _ => ?_
          exact sprouts_sow below (lt_size_of_run_add inside ran)

theorem sprouts_merge (resolve : Resolver α) (inside : target < forest.cells.size)
    (linked : forest.Linked) (source : Nat) :
    forest.Sprouts (Steps.run (merge resolve target source) forest).2 := by
  rw [merge, Steps.run_bind_of_ok (Steps.run_get forest)]
  cases forest.tree? source with
  | none => exact .refl forest
  | some tree =>
      refine (sprouts_meet _ target tree.sight forest).bind fun _ between _ sprouts => ?_
      exact sprouts_mergeBelow _ tree.below (sprouts.lt_size inside) (sprouts.linked linked)

end Forest

/-! ### Operations on tries -/

namespace RootedTrie
variable {α : Type} {forest : Forest α} (trie : RootedTrie α)

theorem sprouts_childOrNew {node : NodeId} (inside : node < forest.cells.size)
    (symbol : Symbol) : forest.Sprouts (Steps.run (trie.childOrNew node symbol) forest).2 := by
  rw [childOrNew, Steps.run_bind_of_ok (Steps.run_get forest)]
  cases trie.child? forest node symbol with
  | some child => exact .refl forest
  | none => exact Forest.sprouts_add inside _ _

theorem child?_of_run_childOrNew {trie : RootedTrie α} {after : Forest α} {node child : NodeId}
    {symbol : Symbol} (inside : node < forest.cells.size)
    (ran : Steps.run (trie.childOrNew node symbol) forest = (.ok child, after)) :
    after.child? node (trie.normalize symbol) = some child := by
  rw [childOrNew, Steps.run_bind_of_ok (Steps.run_get forest)] at ran
  cases led : trie.child? forest node symbol with
  | some found =>
      rw [led] at ran
      obtain ⟨same, rfl⟩ := Prod.mk.inj ran
      exact led.trans (congrArg some (Except.ok.inj same))
  | none =>
      rw [led] at ran
      exact Forest.child?_of_run_add inside ran

theorem sprouts_walk (path : Path) {node : NodeId} (inside : node < forest.cells.size)
    (linked : forest.Linked) :
    forest.Sprouts (Steps.run (path.foldlM trie.childOrNew node) forest).2 := by
  induction path generalizing forest node with
  | nil => exact .refl forest
  | cons symbol path ih =>
      rw [List.foldlM_cons]
      refine (trie.sprouts_childOrNew inside symbol).bind fun child between ran sprouts => ?_
      have linkedToo := sprouts.linked linked
      have stored := Forest.mem_childrenOf_of_child? (child?_of_run_childOrNew inside ran)
      exact ih (linkedToo node child stored) linkedToo

theorem sprouts_insert (inside : trie.root < forest.cells.size) (linked : forest.Linked)
    (path : Path) (token : α) : forest.Sprouts (Steps.run (trie.insert path token) forest).2 := by
  unfold insert
  split
  · exact .refl forest
  · refine (trie.sprouts_walk path inside linked).bind fun node between _ _ => ?_
    refine (Forest.sprouts_setToken node token between).bind fun _ after _ _ => ?_
    refine Forest.Sprouts.bind ?_ fun _ last _ _ => .refl last
    exact Forest.sprouts_update node after fun _ => ⟨rfl, rfl, rfl, rfl⟩

theorem sprouts_create (caseInsensitive : Choice) (placeholder : α) (forest : Forest α) :
    forest.Sprouts (Steps.run (create caseInsensitive placeholder) forest).2 :=
  (Forest.sprouts_grow forest rfl rfl rfl).bind fun _ between _ _ => .refl between

theorem of_run_create {made : RootedTrie α} {after : Forest α} {caseInsensitive : Choice}
    {placeholder : α}
    (ran : Steps.run (create caseInsensitive placeholder) forest = (.ok made, after)) :
    forest.Sprouts after ∧ forest.cells.size = made.root ∧ made.root < after.cells.size := by
  have sprouts := sprouts_create caseInsensitive placeholder forest
  rw [ran] at sprouts
  obtain ⟨same, rfl⟩ := Prod.mk.inj ran
  obtain rfl := Except.ok.inj same
  exact ⟨sprouts, rfl, by simp⟩

theorem sprouts_duplicate (forest : Forest α) :
    forest.Sprouts (Steps.run trie.duplicate forest).2 :=
  (Forest.sprouts_duplicate trie.root true forest).bind fun _ between _ _ => .refl between

variable [Token α]

theorem sprouts_ofSource (caseInsensitive : Choice) (source : RuleSource α) (forest : Forest α) :
    forest.Sprouts (Steps.run (ofSource caseInsensitive source) forest).2 := by
  cases source with
  | grown trie => exact .refl forest
  | written mapping =>
      rw [ofSource, Steps.run_bind, Steps.run_lift]
      cases mapping.toTrie caseInsensitive.taken with
      | error failure => exact .refl forest
      | ok rules =>
          exact (Forest.sprouts_plant none rules.root.entry rules.root.below forest).bind
            fun _ between _ _ => .refl between

theorem sprouts_merged (resolve : Resolver α) (tries : List (RootedTrie α))
    (caseInsensitive : Choice) (linked : forest.Linked) :
    forest.Sprouts (Steps.run (merged resolve tries caseInsensitive) forest).2 := by
  have mergeAll (result : RootedTrie α) {before : Forest α}
      (inside : result.root < before.cells.size) (linked : before.Linked) :
      before.Sprouts (Steps.run (tries.forM (result.mergeWith resolve)) before).2 := by
    induction tries generalizing before with
    | nil => exact .refl before
    | cons trie rest ih =>
        have merged := Forest.sprouts_merge resolve inside linked trie.root
        refine merged.bind fun _ between _ sprouts => ?_
        exact ih (sprouts.lt_size inside) (sprouts.linked linked)
  refine (sprouts_create _ _ forest).bind fun result between ran sprouts => ?_
  have inside := (of_run_create ran).2.2
  exact (mergeAll result inside (sprouts.linked linked)).bind fun _ last _ _ => .refl last

theorem sprouts_overlay (resolve : Resolver α) (source : Option (RuleSource α))
    (linked : forest.Linked) :
    forest.Sprouts (Steps.run (trie.overlay resolve source) forest).2 := by
  cases source with
  | none => exact .refl forest
  | some source =>
      refine (sprouts_ofSource trie.caseInsensitive source forest).bind
        fun rules between _ sprouts => ?_
      exact sprouts_merged resolve [trie, rules] none (sprouts.linked linked)

end RootedTrie

/-! ### Histories -/

def Operation.sprouting {α : Type} : Operation α → Bool
  | .attach _ _ | .freeze _ => false
  | _ => true

namespace Operation
variable {α β : Type}

theorem forest_silent (steps : ForestM α β) (forest : Forest α) :
    (Steps.run (silent steps) forest).2 = (Steps.run steps forest).2 := by
  have quiet : discard steps = steps >>= fun _ => pure () := rfl
  rw [silent, quiet, Steps.run_bind, Steps.run_bind]
  rcases Steps.run steps forest with ⟨_ | _, _⟩ <;> rfl

theorem forest_making (steps : ForestM α (RootedTrie α)) (forest : Forest α) :
    (Steps.run (making steps) forest).2 = (Steps.run steps forest).2 := by
  rw [making, Steps.run_bind]
  rcases Steps.run steps forest with ⟨_ | _, _⟩ <;> rfl

end Operation

namespace Woods
variable {α : Type} {woods : Woods α}

theorem Tended.root_lt_size (tended : woods.Tended) {trie : RootedTrie α}
    (made : trie ∈ woods.tries) : trie.root < woods.forest.cells.size := by
  obtain ⟨cell, there, -⟩ := tended.rooted trie made
  exact Forest.lt_size_of_cell? there

variable [Token α]

theorem Tended.sprouts (tended : woods.Tended) {operation : Operation α}
    (known : woods.Knows operation) (sprouting : operation.sprouting = true) :
    woods.forest.Sprouts (woods.perform operation).forest := by
  obtain ⟨nodes, tries⟩ := known
  have linked := tended.owned.linked_children
  rw [forest_perform]
  have silently {β : Type} {steps : ForestM α β}
      (sprouts : woods.forest.Sprouts (Steps.run steps woods.forest).2) :
      woods.forest.Sprouts (Steps.run (Operation.silent steps) woods.forest).2 :=
    Operation.forest_silent steps _ ▸ sprouts
  have making {steps : ForestM α (RootedTrie α)}
      (sprouts : woods.forest.Sprouts (Steps.run steps woods.forest).2) :
      woods.forest.Sprouts (Steps.run (Operation.making steps) woods.forest).2 :=
    Operation.forest_making steps _ ▸ sprouts
  cases operation with
  | create key entry => exact silently (Forest.sprouts_grow woods.forest rfl rfl rfl)
  | add parent key entry =>
      exact silently
        (Forest.sprouts_addKeyed (nodes parent (by simp [Operation.nodes])) key entry)
  | addMany parent rules =>
      exact silently
        (Forest.sprouts_addMany (nodes parent (by simp [Operation.nodes])) rules)
  | attach parent child => cases sprouting
  | setToken node token => exact silently (Forest.sprouts_setToken node token _)
  | duplicate node withChildren =>
      exact silently (Forest.sprouts_duplicate node withChildren _)
  | merge resolve target source =>
      exact silently (Forest.sprouts_merge resolve
        (nodes target (by simp [Operation.nodes])) linked source)
  | createTrie caseInsensitive placeholder =>
      exact making (RootedTrie.sprouts_create caseInsensitive placeholder _)
  | insert trie path token =>
      exact silently (trie.sprouts_insert
        (tended.root_lt_size (tries trie (by simp [Operation.tries]))) linked path token)
  | freeze trie => cases sprouting
  | duplicateTrie trie => exact making (trie.sprouts_duplicate _)
  | mergeTries resolve target source =>
      exact silently (Forest.sprouts_merge resolve
        (tended.root_lt_size (tries target (by simp [Operation.tries]))) linked source.root)
  | ofSource caseInsensitive source =>
      exact making (RootedTrie.sprouts_ofSource caseInsensitive source _)
  | merged resolve layers caseInsensitive =>
      exact making (RootedTrie.sprouts_merged resolve layers caseInsensitive linked)
  | overlay resolve base source =>
      exact making (base.sprouts_overlay resolve source linked)

end Woods
end Honji
