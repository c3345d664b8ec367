import Honji.Proofs.Forest.Ownership

/-!
Histories of a forest: operations on its nodes and tries, one after another, each of which returns
or fails. Whatever the history, no node is stored twice and no trie is part of another.
-/

namespace Honji

inductive Operation (α : Type) where
  | create (key : Option Symbol) (entry : Entry α)
  | add (parent : NodeId) (key : Option Symbol) (entry : Entry α)
  | addMany (parent : NodeId) (rules : List (Option Symbol × α))
  | attach (parent child : NodeId)
  | setToken (node : NodeId) (token : α)
  | duplicate (node : NodeId) (withChildren : Bool)
  | merge (resolve : Resolver α) (target source : NodeId)
  | createTrie (caseInsensitive : Choice) (placeholder : α)
  | insert (trie : RootedTrie α) (path : Path) (token : α)
  | freeze (trie : RootedTrie α)
  | duplicateTrie (trie : RootedTrie α)
  | mergeTries (resolve : Resolver α) (target source : RootedTrie α)
  | ofSource (caseInsensitive : Choice) (source : RuleSource α)
  | merged (resolve : Resolver α) (tries : List (RootedTrie α)) (caseInsensitive : Choice)
  | overlay (resolve : Resolver α) (base : RootedTrie α) (source : Option (RuleSource α))

def RuleSource.tries {α : Type} : RuleSource α → List (RootedTrie α)
  | .written _ => []
  | .grown trie => [trie]

deriving instance DecidableEq for RootedTrie

namespace Operation
variable {α : Type}

def nodes : Operation α → List NodeId
  | add parent _ _ | addMany parent _ => [parent]
  | attach parent child => [parent, child]
  | setToken node _ | duplicate node _ => [node]
  | merge _ target source => [target, source]
  | _ => []

def tries : Operation α → List (RootedTrie α)
  | insert trie _ _ | freeze trie | duplicateTrie trie => [trie]
  | mergeTries _ target source => [target, source]
  | ofSource _ source => source.tries
  | merged _ tries _ => tries
  | overlay _ base source => base :: source.elim [] RuleSource.tries
  | _ => []

def silent {β : Type} (steps : ForestM α β) : ForestM α (Option (RootedTrie α)) := do
  discard steps
  return none

def making (steps : ForestM α (RootedTrie α)) : ForestM α (Option (RootedTrie α)) := do
  return some (← steps)

def act [Token α] : Operation α → ForestM α (Option (RootedTrie α))
  | create key entry => silent (Forest.grow (.loose key entry))
  | add parent key entry => silent (Forest.addKeyed parent key entry)
  | addMany parent rules => silent (Forest.addMany parent rules)
  | attach parent child => silent (Forest.attach parent child)
  | setToken node token => silent (Forest.setToken node token)
  | duplicate node withChildren => silent (Forest.duplicate node withChildren)
  | merge resolve target source => silent (Forest.merge resolve target source)
  | createTrie caseInsensitive placeholder => making (RootedTrie.create caseInsensitive placeholder)
  | insert trie path token => silent (trie.insert path token)
  | freeze trie => silent trie.freeze
  | duplicateTrie trie => making trie.duplicate
  | mergeTries resolve target source => silent (target.mergeWith resolve source)
  | ofSource caseInsensitive source => making (RootedTrie.ofSource caseInsensitive source)
  | merged resolve tries caseInsensitive => making (RootedTrie.merged resolve tries caseInsensitive)
  | overlay resolve base source => making (base.overlay resolve source)

end Operation

structure Woods (α : Type) where
  forest : Forest α
  tries : List (RootedTrie α)

namespace Woods
variable {α : Type}

def bare : Woods α :=
  ⟨.empty, []⟩

def Knows (woods : Woods α) (operation : Operation α) : Prop :=
  (∀ node ∈ operation.nodes, node < woods.forest.cells.size) ∧
    ∀ trie ∈ operation.tries, trie ∈ woods.tries

instance [DecidableEq α] (woods : Woods α) (operation : Operation α) :
    Decidable (woods.Knows operation) :=
  inferInstanceAs (Decidable (_ ∧ _))

/-- What an operation leaves. If it fails, this is what it did before it failed. -/
def perform [Token α] (woods : Woods α) (operation : Operation α) : Woods α :=
  match Steps.run operation.act woods.forest with
  | (.ok (some trie), forest) => ⟨forest, trie :: woods.tries⟩
  | (_, forest) => ⟨forest, woods.tries⟩

def KnowsAll [Token α] : Woods α → List (Operation α) → Prop
  | _, [] => True
  | woods, operation :: rest => woods.Knows operation ∧ (woods.perform operation).KnowsAll rest

instance decidableKnowsAll [Token α] [DecidableEq α] :
    (woods : Woods α) → (operations : List (Operation α)) → Decidable (woods.KnowsAll operations)
  | _, [] => isTrue trivial
  | woods, operation :: rest =>
      have : Decidable ((woods.perform operation).KnowsAll rest) := decidableKnowsAll _ rest
      inferInstanceAs (Decidable (_ ∧ _))

def performAll [Token α] (woods : Woods α) (operations : List (Operation α)) : Woods α :=
  operations.foldl perform woods

end Woods

/-! ### Operations on tries -/

namespace Forest
variable {α : Type} {forest after : Forest α} {trie : RootedTrie α}

theorem exists_root_of_plant {key : Option Symbol} {entry : Entry α} {below : Branches α}
    {node : Nat} (ran : Steps.run (plant key entry below) forest = (.ok node, after)) :
    ∃ links, after.cell? node = some { Cell.loose key entry with children := links } := by
  have there : (⟨forest.cells.push (.loose key entry)⟩ : Forest α).cell? forest.cells.size =
      some (.loose key entry) := by
    rw [cell?_push, if_pos rfl]
  obtain ⟨final, layout, sowed, -, sown⟩ := run_sow below there
  rw [plant, Steps.run_bind_of_ok (run_grow _ forest), Steps.run_bind_of_ok sowed] at ran
  obtain ⟨same, rfl⟩ := Prod.mk.inj ran
  obtain rfl := Except.ok.inj same
  exact ⟨_, sown.top⟩

end Forest

namespace RootedTrie
variable {α : Type} {forest before after : Forest α} {trie : RootedTrie α}

def IsRooted (trie : RootedTrie α) (forest : Forest α) : Prop :=
  ∃ cell, forest.cell? trie.root = some cell ∧ cell.key = none

theorem IsRooted.evolve (rooted : trie.IsRooted before) (evolves : before.Evolves after) :
    trie.IsRooted after := by
  obtain ⟨cell, there, key⟩ := rooted
  obtain ⟨later, found, same⟩ := evolves.keys trie.root cell there
  exact ⟨later, found, same.trans key⟩

structure Makes (forest : Forest α) (steps : ForestM α (RootedTrie α)) : Prop where
  evolves : forest.Evolves (Steps.run steps forest).2
  rooted : ∀ trie after, Steps.run steps forest = (.ok trie, after) → trie.IsRooted after

theorem evolves_insert (owned : forest.Owned) (trie : RootedTrie α) (path : Path) (token : α) :
    forest.Evolves (Steps.run (trie.insert path token) forest).2 := by
  have walk (node : NodeId) :
      forest.Evolves (Steps.run (path.foldlM trie.childOrNew node) forest).2 := by
    induction path generalizing forest node with
    | nil => exact .refl owned
    | cons symbol path ih =>
        rw [List.foldlM_cons]
        refine .bind ?_ fun child _ _ owned => ih owned child
        rw [childOrNew, Steps.run_bind_of_ok (Steps.run_get forest)]
        cases trie.child? forest node symbol with
        | some child => exact .refl owned
        | none => exact Forest.evolves_add owned ..
  unfold insert
  split
  · exact .refl owned
  · refine (walk trie.root).bind fun node _ _ owned => ?_
    refine (Forest.evolves_setToken owned node token).bind fun _ _ _ owned => ?_
    have ended := Forest.evolves_update owned node ({ · with terminal := some true })
      fun _ => ⟨rfl, rfl, rfl⟩
    refine ended.bind fun _ _ _ owned => ?_
    exact .refl owned

theorem Makes.andThen {first : ForestM α (RootedTrie α)} {rest : RootedTrie α → ForestM α Unit}
    (made : Makes forest first)
    (goesOn : ∀ (trie : RootedTrie α) (between : Forest α), trie.IsRooted between →
      between.Owned → between.Evolves (Steps.run (rest trie) between).2) :
    Makes forest (do
      let trie ← first
      rest trie
      return trie) where
  evolves := by
    refine made.evolves.bind fun trie between ran owned => ?_
    refine (goesOn trie between (made.rooted trie between ran) owned).bind fun _ _ _ owned => ?_
    exact .refl owned
  rooted := by
    intro trie after ran
    obtain ⟨first, between, created, ran⟩ := Steps.run_bind_eq_ok.1 ran
    obtain ⟨done, last, ranRest, ended⟩ := Steps.run_bind_eq_ok.1 ran
    obtain ⟨same, rfl⟩ := Prod.mk.inj ended
    obtain rfl := Except.ok.inj same
    have rooted := made.rooted first between created
    have evolved := made.evolves
    rw [created] at evolved
    have evolves := goesOn first between rooted evolved.owned
    rw [ranRest] at evolves
    exact rooted.evolve evolves

theorem makes_create (owned : forest.Owned) (caseInsensitive : Choice) (placeholder : α) :
    Makes forest (create caseInsensitive placeholder) where
  evolves := by
    refine (Forest.evolves_grow owned (.loose none ⟨placeholder, false⟩) rfl).bind
      fun _ _ _ owned => ?_
    exact .refl owned
  rooted := by
    rintro trie after ⟨⟩
    exact ⟨_, (Forest.cell?_push ..).trans (if_pos rfl), rfl⟩

theorem makes_plant (owned : forest.Owned) (caseInsensitive : Choice) (trie : Trie α) :
    Makes forest (plant trie caseInsensitive) where
  evolves := by
    have planted := Forest.evolves_plant owned none trie.root.entry trie.root.distinct
    refine planted.bind fun _ _ _ owned => ?_
    exact .refl owned
  rooted := by
    intro made after ran
    obtain ⟨root, between, planted, ended⟩ := Steps.run_bind_eq_ok.1 ran
    obtain ⟨same, rfl⟩ := Prod.mk.inj ended
    obtain rfl := Except.ok.inj same
    obtain ⟨links, there⟩ := Forest.exists_root_of_plant planted
    exact ⟨_, there, rfl⟩

theorem makes_duplicate (owned : forest.Owned) (rooted : trie.IsRooted forest) :
    Makes forest trie.duplicate where
  evolves := by
    refine (Forest.evolves_duplicate owned trie.root true).bind fun _ _ _ owned => ?_
    exact .refl owned
  rooted := by
    intro made after ran
    obtain ⟨root, between, copied, ended⟩ := Steps.run_bind_eq_ok.1 ran
    obtain ⟨same, rfl⟩ := Prod.mk.inj ended
    obtain rfl := Except.ok.inj same
    obtain ⟨cell, there, key⟩ := rooted
    rw [Forest.duplicate, Steps.run_bind_of_ok (Steps.run_get forest), there, Forest.tree?, there,
      Option.map_some] at copied
    obtain ⟨links, here⟩ := Forest.exists_root_of_plant copied
    exact ⟨_, here, key⟩

variable [Token α]

theorem makes_ofSource (owned : forest.Owned) (caseInsensitive : Choice) (source : RuleSource α)
    (rooted : ∀ trie ∈ source.tries, trie.IsRooted forest) :
    Makes forest (ofSource caseInsensitive source) := by
  cases source with
  | grown trie =>
      refine ⟨.refl owned, ?_⟩
      rintro made after ⟨⟩
      exact rooted trie (by simp [RuleSource.tries])
  | written mapping =>
      have ran : Steps.run (ofSource caseInsensitive (.written mapping)) forest =
          match mapping.toTrie caseInsensitive.taken with
          | .ok rules => Steps.run (plant rules caseInsensitive) forest
          | .error failure => (.error failure, forest) := by
        rw [ofSource, Steps.run_bind, Steps.run_lift]
        cases mapping.toTrie caseInsensitive.taken <;> rfl
      cases given : mapping.toTrie caseInsensitive.taken with
      | error failure =>
          rw [given] at ran
          exact ⟨ran ▸ .refl owned, fun made after ended => by cases ran.symm.trans ended⟩
      | ok rules =>
          rw [given] at ran
          have planted := makes_plant owned caseInsensitive rules
          exact ⟨ran ▸ planted.evolves, fun made after ended =>
            planted.rooted made after (ran.symm.trans ended)⟩

theorem makes_merged (owned : forest.Owned) (resolve : Resolver α) (tries : List (RootedTrie α))
    (caseInsensitive : Choice) : Makes forest (merged resolve tries caseInsensitive) := by
  refine (makes_create owned _ _).andThen fun result between rooted owned => ?_
  refine .forM result.IsRooted (fun _ _ rooted evolves => rooted.evolve evolves)
    (fun trie _ before rooted owned => ?_) rooted owned
  obtain ⟨cell, there, -⟩ := rooted
  exact Forest.evolves_merge owned resolve there trie.root

theorem makes_overlay (owned : forest.Owned) (resolve : Resolver α) {base : RootedTrie α}
    (rooted : base.IsRooted forest) {source : Option (RuleSource α)}
    (sources : ∀ trie ∈ source.elim [] RuleSource.tries, trie.IsRooted forest) :
    Makes forest (base.overlay resolve source) := by
  cases source with
  | none =>
      refine ⟨.refl owned, ?_⟩
      rintro made after ⟨⟩
      exact rooted
  | some source =>
      have given := makes_ofSource owned base.caseInsensitive source sources
      constructor
      · exact given.evolves.bind fun rules between _ owned =>
          (makes_merged owned resolve [base, rules] none).evolves
      · intro made after ran
        obtain ⟨rules, between, read, ran⟩ := Steps.run_bind_eq_ok.1 ran
        have evolved := given.evolves
        rw [read] at evolved
        exact (makes_merged evolved.owned resolve [base, rules] none).rooted made after ran

end RootedTrie

/-! ### Histories -/

namespace Woods
variable {α : Type} {woods : Woods α}

/-- Nodes are owned, and every trie has a root that no symbol leads to. -/
structure Tended (woods : Woods α) : Prop where
  owned : woods.forest.Owned
  rooted : ∀ trie ∈ woods.tries, trie.IsRooted woods.forest

theorem tended_bare : (bare : Woods α).Tended where
  owned := ⟨fun _ _ there => by simp [bare, Forest.empty, Forest.cell?] at there,
    fun _ _ there => by simp [bare, Forest.empty, Forest.cell?] at there⟩
  rooted := by simp [bare]

/--
Every node that is stored is stored under its own symbol and by its parent, by no other node and
only once; and no node stores the root of a trie.
-/
structure Ownership (woods : Woods α) : Prop where
  links : ∀ (node : Nat) cell, woods.forest.cell? node = some cell →
    ∀ symbol child, (symbol, child) ∈ cell.children →
      ∃ found, woods.forest.cell? child = some found ∧ found.key = some symbol ∧
        found.parent = some node
  single : ∀ (node other : Nat) cell otherCell, woods.forest.cell? node = some cell →
    woods.forest.cell? other = some otherCell → ∀ child ∈ cell.children.map Prod.snd,
      child ∈ otherCell.children.map Prod.snd → node = other
  once : ∀ (node : Nat) cell, woods.forest.cell? node = some cell →
    (cell.children.map Prod.snd).Nodup
  roots : ∀ trie ∈ woods.tries, ∀ (node : Nat) cell, woods.forest.cell? node = some cell →
    trie.root ∉ cell.children.map Prod.snd

theorem Tended.ownership (tended : woods.Tended) : woods.Ownership := by
  obtain ⟨owned, rooted⟩ := tended
  have parent {node : Nat} {cell : Cell α} (there : woods.forest.cell? node = some cell)
      {child : NodeId} (member : child ∈ cell.children.map Prod.snd) :
      ∃ found symbol, woods.forest.cell? child = some found ∧ found.key = some symbol ∧
        found.parent = some node ∧ (symbol, child) ∈ cell.children := by
    obtain ⟨⟨symbol, child⟩, linked, rfl⟩ := List.mem_map.1 member
    obtain ⟨found, here, key, up⟩ := owned.linked node cell there _ linked
    exact ⟨found, symbol, here, key, up, linked⟩
  refine ⟨fun node cell there symbol child linked =>
      owned.linked node cell there (symbol, child) linked,
    fun node other cell otherCell there otherThere child member also => ?_,
    fun node cell there => ?_, fun trie made node cell there member => ?_⟩
  · obtain ⟨found, -, here, -, up, -⟩ := parent there member
    obtain ⟨foundToo, -, hereToo, -, upToo, -⟩ := parent otherThere also
    obtain rfl := Option.some.inj (here.symm.trans hereToo)
    exact Option.some.inj (up.symm.trans upToo)
  · -- siblings with one number have one symbol, and symbols are distinct
    refine List.Nodup.of_map _ (?_ : (cell.children.map Prod.snd |>.map fun child =>
      (woods.forest.cell? child).bind (·.key)).Nodup)
    have keys : (cell.children.map Prod.snd).map
        (fun child => (woods.forest.cell? child).bind (·.key)) = cell.keys.map some := by
      rw [Cell.keys, List.map_map, List.map_map]
      refine List.map_congr_left fun link member => ?_
      obtain ⟨found, here, key, -⟩ := owned.linked node cell there link member
      simp [here, key]
    rw [keys]
    exact (owned.distinct node cell there).map (fun _ _ => Option.some.inj)
  · obtain ⟨found, symbol, here, key, -⟩ := parent there member
    obtain ⟨root, known, unnamed⟩ := rooted trie made
    obtain rfl := Option.some.inj (here.symm.trans known)
    simp [unnamed] at key

theorem evolves_silent {forest : Forest α} {β : Type} {steps : ForestM α β}
    (evolves : forest.Evolves (Steps.run steps forest).2) :
    forest.Evolves (Steps.run (Operation.silent steps) forest).2 ∧
      ∀ trie after, Steps.run (Operation.silent steps) forest = (.ok (some trie), after) →
        trie.IsRooted after := by
  have quiet : forest.Evolves (Steps.run (discard steps) forest).2 := by
    refine evolves.bind fun _ _ _ owned => ?_
    exact .refl owned
  constructor
  · refine quiet.bind fun _ _ _ owned => ?_
    exact .refl owned
  · intro trie after ran
    obtain ⟨-, between, -, ended⟩ := Steps.run_bind_eq_ok.1 ran
    cases ended

theorem evolves_making {forest : Forest α} {steps : ForestM α (RootedTrie α)}
    (makes : RootedTrie.Makes forest steps) :
    forest.Evolves (Steps.run (Operation.making steps) forest).2 ∧
      ∀ trie after, Steps.run (Operation.making steps) forest = (.ok (some trie), after) →
        trie.IsRooted after := by
  constructor
  · refine makes.evolves.bind fun _ _ _ owned => ?_
    exact .refl owned
  · intro trie after ran
    obtain ⟨made, between, ranToo, ended⟩ := Steps.run_bind_eq_ok.1 ran
    obtain ⟨same, rfl⟩ := Prod.mk.inj ended
    obtain rfl := Option.some.inj (Except.ok.inj same)
    exact makes.rooted made between ranToo

variable [Token α]

/-- What an operation leaves of the nodes and tries that were there, whether it returns or not. -/
theorem Tended.act (tended : woods.Tended) {operation : Operation α}
    (known : woods.Knows operation) :
    woods.forest.Evolves (Steps.run operation.act woods.forest).2 ∧
      ∀ trie after, Steps.run operation.act woods.forest = (.ok (some trie), after) →
        trie.IsRooted after := by
  obtain ⟨owned, rooted⟩ := tended
  obtain ⟨nodes, tries⟩ := known
  cases operation with
  | create key entry => exact evolves_silent (Forest.evolves_grow owned (.loose key entry) rfl)
  | add parent key entry => exact evolves_silent (Forest.evolves_addKeyed owned parent key entry)
  | addMany parent rules => exact evolves_silent (Forest.evolves_addMany owned parent rules)
  | attach parent child => exact evolves_silent (Forest.evolves_attach owned parent child)
  | setToken node token => exact evolves_silent (Forest.evolves_setToken owned node token)
  | duplicate node withChildren =>
      exact evolves_silent (Forest.evolves_duplicate owned node withChildren)
  | merge resolve target source =>
      obtain ⟨cell, there⟩ :=
        Forest.exists_cell_of_lt (nodes target (by simp [Operation.nodes]))
      exact evolves_silent (Forest.evolves_merge owned resolve there source)
  | createTrie caseInsensitive placeholder =>
      exact evolves_making (RootedTrie.makes_create owned caseInsensitive placeholder)
  | insert trie path token => exact evolves_silent (trie.evolves_insert owned path token)
  | freeze trie => exact evolves_silent (Forest.evolves_freeze owned trie.root)
  | duplicateTrie trie =>
      exact evolves_making (RootedTrie.makes_duplicate owned
        (rooted trie (tries trie (by simp [Operation.tries]))))
  | mergeTries resolve target source =>
      obtain ⟨cell, there, -⟩ := rooted target (tries target (by simp [Operation.tries]))
      exact evolves_silent (Forest.evolves_merge owned resolve there source.root)
  | ofSource caseInsensitive source =>
      exact evolves_making (RootedTrie.makes_ofSource owned caseInsensitive source
        fun trie member => rooted trie (tries trie member))
  | merged resolve layers caseInsensitive =>
      exact evolves_making (RootedTrie.makes_merged owned resolve layers caseInsensitive)
  | overlay resolve base source =>
      exact evolves_making (RootedTrie.makes_overlay owned resolve
        (rooted base (tries base List.mem_cons_self))
        fun trie member => rooted trie (tries trie (List.mem_cons_of_mem _ member)))

theorem Tended.perform (tended : woods.Tended) {operation : Operation α}
    (known : woods.Knows operation) : (woods.perform operation).Tended := by
  obtain ⟨evolves, made⟩ := tended.act known
  rw [Woods.perform]
  rcases ran : Steps.run operation.act woods.forest with ⟨failure | _ | trie, after⟩ <;>
    rw [ran] at evolves <;>
    have kept : ∀ trie ∈ woods.tries, trie.IsRooted after := fun trie member =>
      (tended.rooted trie member).evolve evolves
  · exact ⟨evolves.owned, kept⟩
  · exact ⟨evolves.owned, kept⟩
  · exact ⟨evolves.owned, List.forall_mem_cons.2 ⟨made trie after ran, kept⟩⟩

theorem Tended.performAll (tended : woods.Tended) {operations : List (Operation α)}
    (known : woods.KnowsAll operations) : (woods.performAll operations).Tended := by
  induction operations generalizing woods with
  | nil => exact tended
  | cons operation rest ih => exact ih (tended.perform known.1) known.2

/-- Whatever is done to a forest, every node has at most one place in it, and a root has none. -/
theorem ownership_performAll {operations : List (Operation α)}
    (known : (bare : Woods α).KnowsAll operations) : (bare.performAll operations).Ownership :=
  (tended_bare.performAll known).ownership

def attachments : List (Operation Text) :=
  [.createTrie (some false) [], .insert ⟨0, some false, []⟩ (Path.ofText "い".toList) "i".toList,
    .create (some "ぬ".toList) ⟨"nu".toList, some true⟩, .attach 1 2, .attach 0 2, .attach 2 0,
    .freeze ⟨0, some false, []⟩, .add 2 (some "ー".toList) ⟨"u".toList, some true⟩,
    .overlay Resolver.ruled ⟨0, some false, []⟩
      (some (.written (.sequence [(.text "いぬ".toList, "dog".toList)])))]

theorem ownership_attachments :
    bare.KnowsAll attachments ∧ (bare.performAll attachments).tries.length = 2 ∧
      (bare.performAll attachments).Ownership := by
  have known : bare.KnowsAll attachments := by decide +kernel
  have made : (bare.performAll attachments).tries.length = 2 := by decide +kernel
  exact ⟨known, made, ownership_performAll known⟩

end Woods
end Honji
