import Honji.Proofs.Trie.Insertion

/-!
Two trees compared path by path. What relates their entries is kept by a change made to both, if it
relates what the change brings.
-/

namespace Honji
namespace Node
variable {α β : Type}

/-! ### What stands at a path after a change -/

theorem child?_relabel (change : Path → Entry α → β) (above : Path) (top : Entry β) (node : Node α)
    (key : Symbol) :
    (⟨top, node.below.relabel change above, node.distinct.relabel change above⟩ :
        Node β).child? key =
      (node.child? key).map fun child =>
        ⟨⟨change (above ++ [key]) child.entry, child.entry.terminal⟩,
          child.below.relabel change (above ++ [key]), child.distinct.relabel change _⟩ := by
  refine child?_eq_of_lookup ?_
  rw [Branches.lookup_relabel, lookup_below, Option.map_map, Option.map_map]
  rfl

theorem entryAt?_relabel (change : Path → Entry α → β) (above : Path) (top : Entry β)
    (node : Node α) {path : Path} (filled : path ≠ []) :
    (⟨top, node.below.relabel change above, node.distinct.relabel change above⟩ :
        Node β).entryAt? path =
      (node.entryAt? path).map fun entry => ⟨change (above ++ path) entry, entry.terminal⟩ := by
  induction path generalizing node above top with
  | nil => exact absurd rfl filled
  | cons symbol path ih =>
      rw [entryAt?_cons, entryAt?_cons, child?_relabel]
      cases node.child? symbol with
      | none => rfl
      | some child =>
          cases path with
          | nil => rfl
          | cons next path => simpa using ih (above ++ [symbol]) _ child (by simp)

theorem entryAt?_relabelBelow (node : Node α) (change : Path → Entry α → α) {path : Path}
    (filled : path ≠ []) : (node.relabelBelow change).entryAt? path =
      (node.entryAt? path).map fun entry => ⟨change path entry, entry.terminal⟩ :=
  entryAt?_relabel change [] node.entry node filled

theorem entryAt?_plant {node : Node α} {path : Path} {symbol : Symbol}
    (parent : node.find? path ≠ none) (fresh : node.find? (path ++ [symbol]) = none)
    (child : Node α) (query : Path) :
    (node.plant path symbol child).entryAt? query =
      if path ++ [symbol] <+: query then child.entryAt? (query.drop (path.length + 1))
      else node.entryAt? query := by
  induction path generalizing node query with
  | nil =>
      have free : node.child? symbol = none := by simpa [find?_cons] using fresh
      cases query with
      | nil => rfl
      | cons key query =>
          rw [entryAt?_cons, entryAt?_cons, child?_plant_nil free]
          by_cases same : symbol = key <;> simp [same]
  | cons step path ih =>
      rw [find?_cons] at parent
      rw [List.cons_append, find?_cons] at fresh
      cases led : node.child? step with
      | none => simp [led] at parent
      | some child =>
          rw [led] at parent fresh
          cases query with
          | nil => rfl
          | cons key query =>
              rw [entryAt?_cons, entryAt?_cons, child?_plant_cons]
              by_cases same : step = key
              · subst same
                simpa [led] using ih parent fresh query
              · simp [same]

theorem entryAt?_plant_of_none {node : Node α} {path : Path} (missing : node.find? path = none)
    (symbol : Symbol) (child : Node α) (query : Path) :
    (node.plant path symbol child).entryAt? query = node.entryAt? query := by
  induction path generalizing node query with
  | nil => simp at missing
  | cons step path ih =>
      cases query with
      | nil => rfl
      | cons key query =>
          rw [entryAt?_cons, entryAt?_cons, child?_plant_cons]
          by_cases same : step = key
          · subst same
            rw [find?_cons] at missing
            cases led : node.child? step with
            | none => simp
            | some child =>
                rw [led] at missing
                simpa using ih missing query
          · simp [same]

/-! ### Trees compared -/

def Pointwise (related : Path → Entry α → Entry β → Prop) (first : Node α) (second : Node β) :
    Prop :=
  ∀ path, Option.Rel (related path) (first.entryAt? path) (second.entryAt? path)

namespace Pointwise
variable {related : Path → Entry α → Entry β → Prop} {first : Node α} {second : Node β}

theorem find?_eq_none_iff (pointwise : Pointwise related first second) (path : Path) :
    first.find? path = none ↔ second.find? path = none := by
  have both := pointwise path
  rw [← entryAt?_eq_none_iff, ← entryAt?_eq_none_iff]
  generalize first.entryAt? path = one at both
  generalize second.entryAt? path = two at both
  cases both <;> simp

theorem of_some (pointwise : Pointwise related first second) {path : Path} {entry : Entry α}
    {other : Entry β} (here : first.entryAt? path = some entry)
    (there : second.entryAt? path = some other) : related path entry other := by
  have both := pointwise path
  rw [here, there] at both
  cases both with
  | some held => exact held

theorem leaf {entry : Entry α} {other : Entry β} (top : related [] entry other) :
    Pointwise related (Node.leaf entry) (Node.leaf other) := by
  intro path
  cases path with
  | nil => exact .some top
  | cons symbol path =>
      rw [entryAt?_cons, entryAt?_cons, child?_leaf, child?_leaf]
      exact .none

theorem insert (pointwise : Pointwise related first second) {blank token : α} {void word : β}
    {path : Path} (filled : path ≠ []) (ends : related path ⟨token, some true⟩ ⟨word, some true⟩)
    (leads : ∀ query, query <+: path → related query ⟨blank, some false⟩ ⟨void, some false⟩) :
    Pointwise related (first.insert blank token path) (second.insert void word path) := by
  intro query
  rw [entryAt?_insert _ _ _ filled, entryAt?_insert _ _ _ filled]
  by_cases last : query = path
  · subst last
    rw [if_pos rfl, if_pos rfl]
    exact .some ends
  · rw [if_neg last, if_neg last]
    have both := pointwise query
    generalize first.entryAt? query = one at both
    generalize second.entryAt? query = two at both
    cases both with
    | some here => exact .some here
    | none =>
        by_cases before : query <+: path
        · simpa [before] using leads query before
        · simp [before]

theorem relabelBelow (pointwise : Pointwise related first second) {change : Path → Entry α → α}
    {other : Path → Entry β → β}
    (changed : ∀ path one two, related path one two →
      related path ⟨change path one, one.terminal⟩ ⟨other path two, two.terminal⟩) :
    Pointwise related (first.relabelBelow change) (second.relabelBelow other) := by
  intro path
  cases path with
  | nil => exact pointwise []
  | cons symbol path =>
      rw [entryAt?_relabelBelow _ _ (by simp), entryAt?_relabelBelow _ _ (by simp)]
      have both := pointwise (symbol :: path)
      generalize first.entryAt? (symbol :: path) = one at both
      generalize second.entryAt? (symbol :: path) = two at both
      cases both with
      | none => exact .none
      | some here => exact .some (changed _ _ _ here)

theorem mapTokens (pointwise : Pointwise related first second)
    {others : Path → Entry α → Entry β → Prop} {change : α → α} {other : β → β}
    (changed : ∀ path one two, related path one two →
      others path ⟨change one.token, one.terminal⟩ ⟨other two.token, two.terminal⟩) :
    Pointwise others (first.mapTokens change) (second.mapTokens other) := by
  intro path
  rw [entryAt?_mapTokens, entryAt?_mapTokens]
  have both := pointwise path
  generalize first.entryAt? path = one at both
  generalize second.entryAt? path = two at both
  cases both with
  | none => exact .none
  | some here => exact .some (changed _ _ _ here)

theorem child (pointwise : Pointwise related first second) {symbol : Symbol} {one : Node α}
    {two : Node β} (led : first.child? symbol = some one) (also : second.child? symbol = some two) :
    Pointwise (fun path => related (symbol :: path)) one two := by
  intro path
  simpa [entryAt?_cons, led, also] using pointwise (symbol :: path)

theorem plant (pointwise : Pointwise related first second) {path : Path} {symbol : Symbol}
    {one : Node α} {two : Node β} (fresh : first.find? (path ++ [symbol]) = none)
    (below : Pointwise (fun query => related (path ++ symbol :: query)) one two) :
    Pointwise related (first.plant path symbol one) (second.plant path symbol two) := by
  intro query
  by_cases parent : first.find? path = none
  · have parentToo := (pointwise.find?_eq_none_iff path).1 parent
    rw [entryAt?_plant_of_none parent, entryAt?_plant_of_none parentToo]
    exact pointwise query
  have parentToo := mt (pointwise.find?_eq_none_iff path).2 parent
  have freshToo := (pointwise.find?_eq_none_iff _).1 fresh
  rw [entryAt?_plant parent fresh, entryAt?_plant parentToo freshToo]
  split
  · next under =>
    obtain ⟨rest, rfl⟩ := under
    simpa using below rest
  · exact pointwise query

theorem merge {resolve : Resolver α} {other : Resolver β} {third : Node α} {fourth : Node β}
    (plain : resolve.Plain) (plainToo : other.Plain)
    (pointwise : Pointwise related first second) (layers : Pointwise related third fourth)
    (resolved : ∀ path one two three four, related path one two → related path three four →
      related path ⟨resolve one.alone three.alone, one.terminal.either three.terminal⟩
        ⟨other two.alone four.alone, two.terminal.either four.terminal⟩) :
    Pointwise related (first.merge resolve third) (second.merge other fourth) := by
  intro path
  rw [entryAt?_merge plain, entryAt?_merge plainToo]
  have both := pointwise path
  have laid := layers path
  generalize first.entryAt? path = one at both
  generalize second.entryAt? path = two at both
  generalize third.entryAt? path = three at laid
  generalize fourth.entryAt? path = four at laid
  cases both with
  | none => exact laid
  | some here =>
      cases laid with
      | none => exact .some here
      | some there => exact .some (resolved _ _ _ _ _ here there)

end Pointwise
end Node
end Honji
