import Honji.Trie.Mapping

/-!
Looking paths up in trees that were changed: for each change, what stands at a path afterwards.
-/

namespace Honji

/-! ### Resolvers -/

def Entry.alone {α : Type} (entry : Entry α) : Sight α :=
  ⟨entry, [], .nil⟩

namespace Resolver
variable {α : Type} {resolve : Resolver α}

theorem beneath_beneath (resolve : Resolver α) (first second one other : Path) :
    (resolve.beneath first second).beneath one other =
      resolve.beneath (first ++ one) (second ++ other) := by
  funext sight otherSight
  simp [beneath, Sight.behind]

/-- The resolver looks at nothing but the entries of the two nodes. -/
def Plain (resolve : Resolver α) : Prop :=
  ∀ one other : Sight α, resolve one other = resolve one.toEntry.alone other.toEntry.alone

theorem Plain.beneath (plain : resolve.Plain) (first second : Path) :
    resolve.beneath first second = resolve := by
  funext one other
  exact (plain _ _).trans (plain one other).symm

theorem plain_later : (later : Resolver α).Plain :=
  fun _ _ => rfl

theorem plain_earlier : (earlier : Resolver α).Plain :=
  fun _ _ => rfl

theorem plain_ruled : (ruled : Resolver α).Plain :=
  fun _ _ => rfl

end Resolver

namespace Branches
variable {α β : Type}

theorem lookup_snoc (siblings below : Branches α) (symbol key : Symbol) (entry : Entry α) :
    (siblings.snoc symbol entry below).lookup key =
      (siblings.lookup key).or (if symbol = key then some (entry, below) else none) := by
  induction siblings with
  | nil => simp [snoc, lookup]
  | cons head headEntry headBelow rest _ ih =>
      rw [snoc, lookup, lookup, ih]
      split <;> rfl

theorem lookup_filterKeys (keep : Symbol → Bool) (branches : Branches α) (key : Symbol) :
    (branches.filterKeys keep).lookup key = if keep key then branches.lookup key else none := by
  induction branches with
  | nil => simp [filterKeys, lookup]
  | cons head entry below rest _ ih =>
      by_cases same : head = key
      · by_cases kept : keep key <;> simp [filterKeys, lookup, same, kept, ih]
      · by_cases kept : keep head <;> simp [filterKeys, lookup, same, kept, ih]

theorem lookup_relabel (change : Path → Entry α → β) (above : Path) (branches : Branches α)
    (key : Symbol) : (branches.relabel change above).lookup key =
      (branches.lookup key).map fun found =>
        (⟨change (above ++ [key]) found.1, found.1.terminal⟩,
          found.2.relabel change (above ++ [key])) := by
  induction branches with
  | nil => rfl
  | cons head entry below rest _ ih =>
      rw [relabel, lookup, lookup, ih]
      split
      · next same => rw [same]; rfl
      · rfl

theorem lookup_erase_of_ne {symbol key : Symbol} (other : symbol ≠ key) (branches : Branches α) :
    (branches.erase symbol).lookup key = branches.lookup key := by
  induction branches with
  | nil => rfl
  | cons head entry below rest _ ih =>
      rw [erase]
      split
      · next same => rw [lookup, if_neg (same ▸ other)]
      · rw [lookup, lookup, ih]

theorem lookup_merge (resolve : Resolver α) (first second : Branches α) (key : Symbol) :
    (first.merge resolve second).lookup key =
      match first.lookup key, second.lookup key with
      | some (entry, below), some (other, otherBelow) =>
          some (⟨resolve.beneath [key] [key] ⟨entry, [], below⟩ ⟨other, [], otherBelow⟩,
              entry.terminal.either other.terminal⟩,
            below.merge (resolve.beneath [key] [key]) otherBelow)
      | some found, none => some found
      | none, found => found := by
  induction first generalizing second with
  | nil => rfl
  | cons head entry below rest _ ih =>
      rw [merge]
      by_cases same : head = key
      · subst same
        cases second.lookup head <;> simp [lookup]
      · cases found : second.lookup head with
        | none => simp only [lookup, if_neg same, ih]
        | some other => simp only [lookup, if_neg same, ih, lookup_erase_of_ne same]

theorem lookup_plant_nil {siblings : Branches α} {symbol : Symbol} (fresh : symbol ∉ siblings.keys)
    (entry : Entry α) (child : Branches α) (key : Symbol) :
    (siblings.plant [] symbol entry child).lookup key =
      if symbol = key then some (entry, child) else siblings.lookup key := by
  have planted : siblings.plant [] symbol entry child = siblings.snoc symbol entry child := by
    cases siblings <;> simp [plant, add, fresh]
  rw [planted, lookup_snoc]
  by_cases same : symbol = key
  · rw [lookup_eq_none_iff.2 (same ▸ fresh)]
    simp [same]
  · simp [same]

theorem lookup_plant_cons (siblings child : Branches α) (step symbol key : Symbol) (path : Path)
    (entry : Entry α) : (siblings.plant (step :: path) symbol entry child).lookup key =
      if step = key then
        (siblings.lookup key).map fun found => (found.1, found.2.plant path symbol entry child)
      else siblings.lookup key := by
  induction siblings with
  | nil => simp [plant, lookup]
  | cons head headEntry below rest _ ih =>
      rw [plant]
      by_cases led : head = step
      · subst led
        by_cases same : head = key <;> simp [lookup, same]
      · by_cases same : head = key
        · subst same
          simp [lookup, led, Ne.symm led]
        · simp [lookup, led, same, ih]

end Branches

namespace Node
variable {α β : Type}

theorem child?_eq_some_iff {node child : Node α} {symbol : Symbol} :
    node.child? symbol = some child ↔
      node.below.lookup symbol = some (child.entry, child.below) := by
  unfold child?
  rw [Option.pmap_eq_some_iff]
  constructor
  · rintro ⟨found, _, looked, rfl⟩
    exact looked
  · intro looked
    exact ⟨_, node.distinct.of_lookup looked, looked, rfl⟩

theorem child?_eq_of_lookup {node : Node α} {symbol : Symbol} {other : Option (Node α)}
    (looked : node.below.lookup symbol = other.map fun child => (child.entry, child.below)) :
    node.child? symbol = other := by
  ext child
  rw [child?_eq_some_iff, looked, Option.map_eq_some_iff]
  constructor
  · rintro ⟨⟨entry, below, distinct⟩, found, same⟩
    simp only [Prod.mk.injEq] at same
    obtain ⟨rfl, rfl⟩ := same
    exact found
  · intro found
    exact ⟨child, found, rfl⟩

theorem lookup_below (node : Node α) (symbol : Symbol) :
    node.below.lookup symbol =
      (node.child? symbol).map fun child => (child.entry, child.below) := by
  simp [child?, Option.map_pmap]

@[simp] theorem child?_leaf (entry : Entry α) (symbol : Symbol) :
    (leaf entry).child? symbol = none := rfl

theorem child?_filterKeys (node : Node α) (keep : Symbol → Bool) (key : Symbol) :
    (node.filterKeys keep).child? key = if keep key then node.child? key else none := by
  refine child?_eq_of_lookup ?_
  rw [filterKeys, Branches.lookup_filterKeys, lookup_below]
  split <;> rfl

theorem child?_mapTokens (node : Node α) (change : α → β) (key : Symbol) :
    (node.mapTokens change).child? key = (node.child? key).map (·.mapTokens change) := by
  have anywhere (branches : Branches α) (above : Path) :
      branches.relabel (fun _ entry => change entry.token) above =
        branches.relabel (fun _ entry => change entry.token) [] := by
    induction branches generalizing above with
    | nil => rfl
    | cons symbol entry below rest belowHyp restHyp =>
        rw [Branches.relabel, Branches.relabel, restHyp, belowHyp (above ++ [symbol]),
          belowHyp ([] ++ [symbol])]
  refine child?_eq_of_lookup ?_
  rw [mapTokens, Branches.lookup_relabel, lookup_below, Option.map_map, Option.map_map]
  simp [Function.comp_def, mapTokens, anywhere]

theorem child?_merge (resolve : Resolver α) (first second : Node α) (key : Symbol) :
    (first.merge resolve second).child? key =
      match first.child? key, second.child? key with
      | some child, some other => some (child.merge (resolve.beneath [key] [key]) other)
      | some child, none => some child
      | none, found => found := by
  refine child?_eq_of_lookup ?_
  rw [merge, Branches.lookup_merge, lookup_below, lookup_below]
  cases first.child? key <;> cases second.child? key <;> rfl

theorem child?_plant_nil {node : Node α} {symbol : Symbol} (fresh : node.child? symbol = none)
    (child : Node α) (key : Symbol) :
    (node.plant [] symbol child).child? key =
      if symbol = key then some child else node.child? key := by
  refine child?_eq_of_lookup ?_
  rw [plant, Branches.lookup_plant_nil (child?_eq_none_iff.1 fresh), lookup_below]
  split <;> rfl

theorem child?_plant_cons (node child : Node α) (step symbol key : Symbol) (path : Path) :
    (node.plant (step :: path) symbol child).child? key =
      if step = key then (node.child? key).map (·.plant path symbol child)
      else node.child? key := by
  refine child?_eq_of_lookup ?_
  rw [plant, Branches.lookup_plant_cons, lookup_below]
  split
  · rw [Option.map_map, Option.map_map]
    rfl
  · rfl

/-! ### What stands at a path -/

def entryAt? (node : Node α) (path : Path) : Option (Entry α) :=
  (node.find? path).map (·.entry)

@[simp] theorem entryAt?_nil (node : Node α) : node.entryAt? [] = some node.entry := rfl

theorem entryAt?_cons (node : Node α) (symbol : Symbol) (path : Path) :
    node.entryAt? (symbol :: path) = (node.child? symbol).bind (·.entryAt? path) := by
  rw [entryAt?, find?_cons]
  cases node.child? symbol <;> rfl

theorem entryAt?_eq_none_iff {node : Node α} {path : Path} :
    node.entryAt? path = none ↔ node.find? path = none := by
  simp [entryAt?]

theorem entryAt?_mapTokens (node : Node α) (change : α → β) (path : Path) :
    (node.mapTokens change).entryAt? path =
      (node.entryAt? path).map fun entry => ⟨change entry.token, entry.terminal⟩ := by
  induction path generalizing node with
  | nil => rfl
  | cons symbol path ih =>
      rw [entryAt?_cons, entryAt?_cons, child?_mapTokens]
      cases node.child? symbol with
      | none => rfl
      | some child => exact ih child

theorem find?_merge (resolve : Resolver α) (first second : Node α) (path : Path) :
    (first.merge resolve second).find? path =
      match first.find? path, second.find? path with
      | some one, some other => some (one.merge (resolve.beneath path path) other)
      | some one, none => some one
      | none, found => found := by
  induction path generalizing resolve first second with
  | nil => rfl
  | cons symbol path ih =>
      rw [find?_cons, find?_cons, find?_cons, child?_merge]
      cases first.child? symbol <;> cases second.child? symbol
      · rfl
      · rfl
      · next child => cases found : child.find? path <;> simp [found]
      · simp only [Option.bind_some, ih, Resolver.beneath_beneath, List.singleton_append]

theorem entryAt?_merge {resolve : Resolver α} (plain : resolve.Plain) (first second : Node α)
    (path : Path) : (first.merge resolve second).entryAt? path =
      match first.entryAt? path, second.entryAt? path with
      | some entry, some other =>
          some ⟨resolve entry.alone other.alone, entry.terminal.either other.terminal⟩
      | some entry, none => some entry
      | none, found => found := by
  rw [entryAt?, entryAt?, entryAt?, find?_merge, plain.beneath]
  cases first.find? path <;> cases second.find? path
  · rfl
  · rfl
  · rfl
  · next one other =>
      rw [Option.map_some, merge, plain]
      rfl

theorem entryAt?_plant_leaf {node : Node α} {path : Path} {symbol : Symbol}
    (parent : node.entryAt? path ≠ none) (fresh : node.entryAt? (path ++ [symbol]) = none)
    (entry : Entry α) (query : Path) :
    (node.plant path symbol (leaf entry)).entryAt? query =
      if path ++ [symbol] = query then some entry else node.entryAt? query := by
  induction path generalizing node query with
  | nil =>
      have free : node.child? symbol = none := by
        simpa [entryAt?_eq_none_iff, find?_cons] using fresh
      cases query with
      | nil => simp [plant]
      | cons key query =>
          rw [entryAt?_cons, entryAt?_cons, child?_plant_nil free]
          by_cases same : symbol = key
          · subst same
            cases query with
            | nil => simp [leaf]
            | cons next query => simp [entryAt?_cons (leaf entry), free]
          · simp [same]
  | cons step path ih =>
      cases query with
      | nil => simp [plant]
      | cons key query =>
          rw [entryAt?_cons, entryAt?_cons, child?_plant_cons]
          by_cases same : step = key
          · subst same
            rw [entryAt?_cons] at parent
            rw [List.cons_append, entryAt?_cons] at fresh
            cases led : node.child? step with
            | none => simp [led] at parent
            | some child =>
                rw [led] at parent fresh
                simpa using ih parent fresh query
          · simp [same]

end Node
end Honji
