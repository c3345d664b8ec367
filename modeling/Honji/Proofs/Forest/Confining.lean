import Honji.Proofs.Forest.Upkeep

/-!
Where operations write. A part of a forest that is closed under children, and that has room for all
nodes to come, is never left on a way down. An operation that is given only nodes of such a part to
change leaves all other nodes as they are, whether it returns or fails half way.
-/

namespace Honji

/-! ### What is changed -/

def Operation.changes {α : Type} : Operation α → List NodeId
  | add parent _ _ | addMany parent _ => [parent]
  | attach parent child => [parent, child]
  | setToken node _ => [node]
  | merge _ target _ => [target]
  | insert trie _ _ | freeze trie => [trie.root]
  | mergeTries _ target _ => [target.root]
  | _ => []

def Incident.changes {α : Type} : Incident α → List NodeId
  | .operation done => done.changes
  | .release node => [node]

namespace Forest
variable {α β γ : Type} {region : NodeId → Prop} {before between after forest : Forest α}
  {node parent : Nat} {symbol : Symbol}

structure Enclosed (region : NodeId → Prop) (forest : Forest α) : Prop where
  closed : ∀ parent child : Nat, region parent → child ∈ forest.childrenOf parent → region child
  beyond : ∀ node : Nat, forest.cells.size ≤ node → region node

/-- The nodes outside of a part are as they were, and no way leads to them from inside. -/
structure Confined (region : NodeId → Prop) (before after : Forest α) : Prop where
  enclosed : Enclosed region after
  same : ∀ node : Nat, ¬ region node → after.cell? node = before.cell? node

theorem Enclosed.child? (enclosed : Enclosed region forest) (inside : region parent) {child : Nat}
    (led : forest.child? parent symbol = some child) : region child :=
  enclosed.closed parent child inside (mem_childrenOf_of_child? led)

theorem Enclosed.reachable (enclosed : Enclosed region forest) {depth member : Nat}
    (inside : region node) (reached : member ∈ forest.reachable depth node) : region member := by
  induction depth generalizing node with
  | zero => simp [Forest.reachable] at reached
  | succ depth ih =>
      rw [Forest.reachable] at reached
      cases there : forest.cell? node with
      | none => simp [there] at reached
      | some cell =>
          simp only [there, List.mem_cons, List.mem_flatMap] at reached
          rcases reached with rfl | ⟨link, stored, reached⟩
          · exact inside
          · exact ih (enclosed.closed node link.2 inside
              ((mem_childrenOf there).2 (List.mem_map_of_mem stored))) reached

namespace Confined

theorem refl (enclosed : Enclosed region forest) : Confined region forest forest :=
  ⟨enclosed, fun _ _ => rfl⟩

theorem trans (first : Confined region before between) (second : Confined region between after) :
    Confined region before after :=
  ⟨second.enclosed, fun node outside => (second.same node outside).trans (first.same node outside)⟩

end Confined

theorem confined_modify (enclosed : Enclosed region forest) (inside : region node)
    {change : Cell α → Cell α}
    (stored : ∀ cell, ∀ link ∈ (change cell).children, link ∈ cell.children ∨ region link.2) :
    Confined region forest ⟨forest.cells.modify node change⟩ := by
  refine ⟨⟨fun parent child within below => ?_, fun other beyond => ?_⟩, fun other outside => ?_⟩
  · obtain ⟨cell, there, member⟩ := exists_storer below
    rw [cell?_modify] at there
    split at there
    · obtain ⟨earlier, known, rfl⟩ := Option.map_eq_some_iff.1 there
      obtain ⟨link, linked, rfl⟩ := List.mem_map.1 member
      rcases stored earlier link linked with old | new
      · exact enclosed.closed parent link.2 within
          ((mem_childrenOf known).2 (List.mem_map_of_mem old))
      · exact new
    · exact enclosed.closed parent child within ((mem_childrenOf there).2 member)
  · exact enclosed.beyond other (by simpa using beyond)
  · rw [cell?_modify, if_neg]
    rintro rfl
    exact outside inside

theorem confined_push (enclosed : Enclosed region forest) {cell : Cell α}
    (bare : cell.children = []) : Confined region forest ⟨forest.cells.push cell⟩ := by
  have fresh : region forest.cells.size := enclosed.beyond _ (Nat.le_refl _)
  refine ⟨⟨fun parent child within below => ?_, fun other beyond => ?_⟩, fun other outside => ?_⟩
  · obtain ⟨found, there, member⟩ := exists_storer below
    rw [cell?_push] at there
    split at there
    · obtain rfl := Option.some.inj there
      simp [bare] at member
    · exact enclosed.closed parent child within ((mem_childrenOf there).2 member)
  · simp only [Array.size_push] at beyond
    exact enclosed.beyond other (by omega)
  · rw [cell?_push, if_neg]
    rintro rfl
    exact outside fresh

/-! ### Computations -/

/--
Wherever it starts, a computation writes in a part of the nodes only, be it that it fails; and what
it answers is as it is said to be.
-/
def WritesOnly (region : NodeId → Prop) (steps : ForestM α β) (answer : β → Prop) : Prop :=
  ∀ forest, Enclosed region forest → Confined region forest (Steps.run steps forest).2 ∧
    ∀ value, (Steps.run steps forest).1 = .ok value → answer value

namespace WritesOnly
variable {answer : β → Prop} {later : γ → Prop}

theorem pure {value : β} (holds : answer value) :
    WritesOnly region (Pure.pure value : ForestM α β) answer := by
  intro forest enclosed
  refine ⟨.refl enclosed, ?_⟩
  rintro value ⟨⟩
  exact holds

theorem throw (failure : Failure) :
    WritesOnly region (MonadExcept.throw failure : ForestM α β) answer := by
  intro forest enclosed
  refine ⟨.refl enclosed, ?_⟩
  rintro value ⟨⟩

theorem get : WritesOnly region (MonadState.get : ForestM α (Forest α)) (Enclosed region) := by
  intro forest enclosed
  refine ⟨.refl enclosed, ?_⟩
  rintro value ⟨⟩
  exact enclosed

theorem bind {first : ForestM α β} {next : β → ForestM α γ}
    (here : WritesOnly region first answer)
    (goesOn : ∀ value, answer value → WritesOnly region (next value) later) :
    WritesOnly region (first >>= next) later := by
  intro forest enclosed
  obtain ⟨confined, answers⟩ := here forest enclosed
  rw [Steps.run_bind]
  generalize Steps.run first forest = outcome at confined answers
  obtain ⟨failure | value, between⟩ := outcome
  · exact ⟨confined, by rintro value ⟨⟩⟩
  · obtain ⟨further, answersToo⟩ := goesOn value (answers value rfl) between confined.enclosed
    exact ⟨confined.trans further, answersToo⟩

theorem imp {wider : β → Prop} {steps : ForestM α β} (writes : WritesOnly region steps answer)
    (implied : ∀ value, answer value → wider value) : WritesOnly region steps wider :=
  fun forest enclosed => by
    obtain ⟨confined, answers⟩ := writes forest enclosed
    exact ⟨confined, fun value ran => implied value (answers value ran)⟩

theorem congr {steps other : ForestM α β}
    (same : ∀ forest, Steps.run steps forest = Steps.run other forest)
    (writes : WritesOnly region other answer) : WritesOnly region steps answer := by
  intro forest enclosed
  rw [same]
  exact writes forest enclosed

theorem forM {ι : Type} {step : ι → ForestM α Unit} {items : List ι}
    (each : ∀ item ∈ items, WritesOnly region (step item) fun _ => True) :
    WritesOnly region (items.forM step) fun _ => True := by
  induction items with
  | nil => exact pure trivial
  | cons item items ih =>
      obtain ⟨here, rest⟩ := List.forall_mem_cons.1 each
      exact here.bind fun _ _ => ih rest

end WritesOnly

/-! ### Operations on nodes -/

theorem writes_update (inside : region node) {change : Cell α → Cell α}
    (stored : ∀ cell, ∀ link ∈ (change cell).children, link ∈ cell.children ∨ region link.2) :
    WritesOnly region (update node change) fun _ => True :=
  fun _ enclosed => ⟨confined_modify enclosed inside stored, fun _ _ => trivial⟩

theorem writes_relabel (inside : region node) {change : Cell α → Cell α}
    (kept : ∀ cell, (change cell).children = cell.children) :
    WritesOnly region (update node change) fun _ => True :=
  writes_update inside fun cell _ linked => .inl (kept cell ▸ linked)

theorem writes_enter (inside : region parent) {child : Nat} (within : region child) :
    WritesOnly region (enter parent symbol child : ForestM α Unit) fun _ => True :=
  writes_update inside fun cell link linked => by
    rcases List.mem_append.1 linked with old | new
    · exact .inl old
    · obtain rfl := List.mem_singleton.1 new
      exact .inr within

theorem writes_grow {cell : Cell α} (bare : cell.children = []) :
    WritesOnly region (grow cell) region := by
  intro forest enclosed
  refine ⟨confined_push enclosed bare, ?_⟩
  rintro value ⟨⟩
  exact enclosed.beyond _ (Nat.le_refl _)

theorem writes_checkMutable (node : Nat) :
    WritesOnly region (checkMutable node : ForestM α Unit) fun _ => True := by
  refine .bind .get fun forest _ => ?_
  split
  · exact .throw _
  · exact .pure trivial

theorem writes_checkFree (parent : Nat) (symbol : Symbol) :
    WritesOnly region (checkFree parent symbol : ForestM α Unit) fun _ => True := by
  refine .bind .get fun forest _ => ?_
  split
  · exact .throw _
  · exact .pure trivial

theorem writes_setToken (inside : region node) (token : α) :
    WritesOnly region (setToken node token) fun _ => True :=
  (writes_checkMutable node).bind fun _ _ => writes_relabel inside fun _ => rfl

theorem writes_attach (inside : region parent) {child : Nat} (within : region child) :
    WritesOnly region (attach parent child : ForestM α Unit) fun _ => True := by
  refine (writes_checkMutable parent).bind fun _ _ => ?_
  refine .bind .get fun forest _ => ?_
  split
  · exact .pure trivial
  · split
    · exact .throw _
    · exact .throw _
    · refine (writes_checkFree parent _).bind fun _ _ => ?_
      refine .bind (writes_relabel within fun _ => rfl) fun _ _ => ?_
      exact writes_enter inside within

theorem writes_growChild (inside : region parent) (symbol : Symbol) (entry : Entry α) :
    WritesOnly region (growChild parent symbol entry) region := by
  refine (writes_grow rfl).bind fun child within => ?_
  exact (writes_enter inside within).bind fun _ _ => .pure within

theorem writes_add (inside : region parent) (symbol : Symbol) (entry : Entry α) :
    WritesOnly region (add parent symbol entry) region := by
  refine (writes_checkMutable parent).bind fun _ _ => ?_
  exact (writes_checkFree parent symbol).bind fun _ _ => writes_growChild inside symbol entry

theorem writes_addKeyed (inside : region parent) (key : Option Symbol) (entry : Entry α) :
    WritesOnly region (addKeyed parent key entry) region := by
  cases key with
  | some symbol => exact writes_add inside symbol entry
  | none => exact (writes_checkMutable parent).bind fun _ _ => .throw _

theorem writes_addMany (inside : region parent) (rules : List (Option Symbol × α)) :
    WritesOnly region (addMany parent rules) fun _ => True := by
  unfold addMany
  induction rules with
  | nil => exact .pure trivial
  | cons rule rules ih =>
      rw [List.mapM_cons]
      refine (writes_addKeyed inside rule.1 _).bind fun _ _ => ?_
      exact ih.bind fun _ _ => .pure trivial

/-! ### Storing and laying trees -/

theorem writes_sow (branches : Branches α) (inside : region parent) :
    WritesOnly region (sow parent branches) fun _ => True := by
  induction branches generalizing parent with
  | nil => exact .pure trivial
  | cons symbol entry below rest belowHyp restHyp =>
      refine (writes_growChild inside symbol entry).bind fun child within => ?_
      exact (belowHyp within).bind fun _ _ => restHyp inside

theorem writes_plant (key : Option Symbol) (entry : Entry α) (below : Branches α) :
    WritesOnly region (plant key entry below) region := by
  refine (writes_grow rfl).bind fun node inside => ?_
  exact (writes_sow below inside).bind fun _ _ => .pure inside

theorem writes_duplicate (node : Nat) (withChildren : Bool) :
    WritesOnly region (duplicate node withChildren : ForestM α NodeId) fun _ => True := by
  refine .bind .get fun forest _ => ?_
  split
  · exact (writes_plant _ _ _).imp fun _ _ => trivial
  · exact .pure trivial

theorem writes_meet (inside : region node) (resolve : Resolver α) (other : Sight α) :
    WritesOnly region (meet resolve node other) fun _ => True :=
  (writes_checkMutable node).bind fun _ _ => .bind .get fun _ _ =>
    writes_relabel inside fun _ => rfl

theorem writes_mergeBelow (resolve : Resolver α) (branches : Branches α) {target : Nat}
    (inside : region target) :
    WritesOnly region (mergeBelow resolve target branches) fun _ => True := by
  induction branches generalizing resolve target with
  | nil => exact .pure trivial
  | cons symbol entry below rest belowHyp restHyp =>
      refine .congr (run_mergeBelow_cons resolve target symbol entry below rest) ?_
      refine .bind ?_ fun _ (_ : True) => restHyp resolve inside
      refine .bind .get fun forest enclosed => ?_
      cases led : forest.child? target symbol with
      | none => exact (writes_add inside symbol entry).bind fun _ within => writes_sow below within
      | some child =>
          have within := enclosed.child? inside led
          exact (writes_meet within _ _).bind fun _ _ => belowHyp _ within

theorem writes_merge (resolve : Resolver α) {target : Nat} (inside : region target)
    (source : Nat) : WritesOnly region (merge resolve target source) fun _ => True := by
  refine .bind .get fun forest _ => ?_
  split
  · exact .pure trivial
  · exact (writes_meet inside _ _).bind fun _ _ => writes_mergeBelow _ _ inside

theorem writes_freeze (inside : region node) :
    WritesOnly region (freeze node : ForestM α Unit) fun _ => True := by
  refine .bind .get fun forest enclosed => .forM fun member reached => ?_
  exact writes_relabel (enclosed.reachable inside reached) fun _ => rfl

end Forest

/-! ### Operations on tries -/

namespace RootedTrie
variable {α : Type} {region : NodeId → Prop} (trie : RootedTrie α)

theorem writes_create (caseInsensitive : Choice) (placeholder : α) :
    Forest.WritesOnly region (create caseInsensitive placeholder) fun made => region made.root :=
  (Forest.writes_grow rfl).bind fun _ inside => .pure inside

theorem writes_walk (path : Path) {node : NodeId} (inside : region node) :
    Forest.WritesOnly region (path.foldlM trie.childOrNew node) region := by
  induction path generalizing node with
  | nil => exact .pure inside
  | cons symbol path ih =>
      rw [List.foldlM_cons]
      refine Forest.WritesOnly.bind ?_ fun child (within : region child) => ih within
      refine .bind .get fun forest enclosed => ?_
      cases led : trie.child? forest node symbol with
      | some child => exact .pure (enclosed.child? inside led)
      | none => exact Forest.writes_add inside _ _

theorem writes_insert (inside : region trie.root) (path : Path) (token : α) :
    Forest.WritesOnly region (trie.insert path token) fun _ => True := by
  unfold insert
  split
  · exact .throw _
  · refine (trie.writes_walk path inside).bind fun node within => ?_
    refine (Forest.writes_setToken within token).bind fun _ _ => ?_
    exact .bind (Forest.writes_relabel within fun _ => rfl) fun _ _ => .pure trivial

theorem writes_duplicate : Forest.WritesOnly region trie.duplicate fun _ => True :=
  (Forest.writes_duplicate trie.root true).bind fun _ _ => .pure trivial

variable [Token α]

theorem writes_ofSource (caseInsensitive : Choice) (source : RuleSource α) :
    Forest.WritesOnly region (ofSource caseInsensitive source) fun _ => True := by
  cases source with
  | grown trie => exact .pure trivial
  | written mapping =>
      intro forest enclosed
      rw [ofSource, Steps.run_bind, Steps.run_lift]
      cases mapping.toTrie caseInsensitive.taken with
      | error failure => exact Forest.WritesOnly.throw failure forest enclosed
      | ok rules =>
          exact ((Forest.writes_plant none _ _).bind fun _ _ => .pure trivial) forest enclosed

theorem writes_merged (resolve : Resolver α) (tries : List (RootedTrie α))
    (caseInsensitive : Choice) :
    Forest.WritesOnly region (merged resolve tries caseInsensitive) fun _ => True := by
  refine (writes_create _ _).bind fun result inside => ?_
  refine Forest.WritesOnly.bind (.forM fun trie _ => ?_) fun _ _ => .pure trivial
  exact Forest.writes_merge resolve inside trie.root

theorem writes_overlay (resolve : Resolver α) (source : Option (RuleSource α)) :
    Forest.WritesOnly region (trie.overlay resolve source) fun _ => True := by
  cases source with
  | none => exact .pure trivial
  | some source =>
      refine (writes_ofSource trie.caseInsensitive source).bind fun rules _ => ?_
      exact writes_merged resolve [trie, rules] none

end RootedTrie

/-! ### Histories -/

namespace Operation
variable {α : Type} {region : NodeId → Prop} {forest : Forest α}

theorem confined_silent {β : Type} {steps : ForestM α β} {answer : β → Prop}
    (enclosed : Forest.Enclosed region forest) (writes : Forest.WritesOnly region steps answer) :
    Forest.Confined region forest (Steps.run (silent steps) forest).2 :=
  forest_silent steps forest ▸ (writes forest enclosed).1

theorem confined_making {steps : ForestM α (RootedTrie α)} {answer : RootedTrie α → Prop}
    (enclosed : Forest.Enclosed region forest) (writes : Forest.WritesOnly region steps answer) :
    Forest.Confined region forest (Steps.run (making steps) forest).2 :=
  forest_making steps forest ▸ (writes forest enclosed).1

/-- An operation writes only where the nodes are that it is given to change. -/
theorem confined_act [Token α] (enclosed : Forest.Enclosed region forest)
    {operation : Operation α} (inside : ∀ node ∈ operation.changes, region node) :
    Forest.Confined region forest (Steps.run operation.act forest).2 := by
  cases operation with
  | create key entry => exact confined_silent enclosed (Forest.writes_grow rfl)
  | add parent key entry =>
      exact confined_silent enclosed
        (Forest.writes_addKeyed (inside parent (by simp [changes])) key entry)
  | addMany parent rules =>
      exact confined_silent enclosed
        (Forest.writes_addMany (inside parent (by simp [changes])) rules)
  | attach parent child =>
      exact confined_silent enclosed (Forest.writes_attach
        (inside parent (by simp [changes])) (inside child (by simp [changes])))
  | setToken node token =>
      exact confined_silent enclosed
        (Forest.writes_setToken (inside node (by simp [changes])) token)
  | duplicate node withChildren =>
      exact confined_silent enclosed (Forest.writes_duplicate node withChildren)
  | merge resolve target source =>
      exact confined_silent enclosed
        (Forest.writes_merge resolve (inside target (by simp [changes])) source)
  | createTrie caseInsensitive placeholder =>
      exact confined_making enclosed (RootedTrie.writes_create caseInsensitive placeholder)
  | insert trie path token =>
      exact confined_silent enclosed
        (trie.writes_insert (inside trie.root (by simp [changes])) path token)
  | freeze trie =>
      exact confined_silent enclosed (Forest.writes_freeze (inside trie.root (by simp [changes])))
  | duplicateTrie trie => exact confined_making enclosed trie.writes_duplicate
  | mergeTries resolve target source =>
      exact confined_silent enclosed
        (Forest.writes_merge resolve (inside target.root (by simp [changes])) source.root)
  | ofSource caseInsensitive source =>
      exact confined_making enclosed (RootedTrie.writes_ofSource caseInsensitive source)
  | merged resolve tries caseInsensitive =>
      exact confined_making enclosed (RootedTrie.writes_merged resolve tries caseInsensitive)
  | overlay resolve base source =>
      exact confined_making enclosed (base.writes_overlay resolve source)

end Operation

theorem Forest.confined_release {α : Type} {region : NodeId → Prop} {forest : Forest α} {node : Nat}
    (enclosed : Enclosed region forest) (inside : region node) :
    Confined region forest (forest.release node) := by
  refine ⟨⟨fun parent child within below => ?_, fun other beyond => ?_⟩, fun other outside => ?_⟩
  · obtain ⟨cell, there, member⟩ := exists_storer below
    rw [cell?_release] at there
    obtain ⟨earlier, known, rfl⟩ := Option.map_eq_some_iff.1 there
    by_cases same : parent = node
    · simp [same] at member
    · simp only [same, if_false] at member
      exact enclosed.closed parent child within ((mem_childrenOf known).2 member)
  · exact enclosed.beyond other (by simpa [release] using beyond)
  · have other : other ≠ node ∧ other ∉ forest.childrenOf node :=
      ⟨fun same => outside (same ▸ inside),
        fun stored => outside (enclosed.closed node _ inside stored)⟩
    rw [cell?_release]
    simp [other]

namespace Woods
variable {α : Type} [Token α] {woods : Woods α} {region : NodeId → Prop}

theorem confined_undergo (enclosed : Forest.Enclosed region woods.forest) {incident : Incident α}
    (inside : ∀ node ∈ incident.changes, region node) :
    Forest.Confined region woods.forest (woods.undergo incident).forest := by
  cases incident with
  | operation operation =>
      rw [undergo, forest_perform]
      exact Operation.confined_act enclosed inside
  | release node => exact Forest.confined_release enclosed (inside node List.mem_cons_self)

theorem confined_undergoAll (enclosed : Forest.Enclosed region woods.forest)
    {incidents : List (Incident α)}
    (inside : ∀ incident ∈ incidents, ∀ node ∈ incident.changes, region node) :
    Forest.Confined region woods.forest (woods.undergoAll incidents).forest := by
  induction incidents generalizing woods with
  | nil => exact .refl enclosed
  | cons incident rest ih =>
      obtain ⟨here, later⟩ := List.forall_mem_cons.1 inside
      have confined := confined_undergo enclosed here
      exact confined.trans (ih confined.enclosed later)

end Woods
end Honji
