import Honji.Proofs.Trie.Rules

/-!
What stands at each path after rules were put into a trie one after another: the last token given
for the path, or else what stood there before, or else a blank on the way to some rule.
-/

namespace Honji
namespace Branches
variable {α : Type}

theorem lookup_chain (blank token : α) (symbol : Symbol) (path : Path) (key : Symbol) :
    (chain blank token (symbol :: path)).lookup key =
      if symbol = key then
        some (if path = [] then ⟨token, true⟩ else ⟨blank, false⟩, chain blank token path)
      else none := by
  cases path <;> simp [chain, lookup]

theorem lookup_insert (blank token : α) (branches : Branches α) (symbol : Symbol) (path : Path)
    (key : Symbol) : (branches.insert blank token (symbol :: path)).lookup key =
      if symbol = key then
        let (entry, below) := (branches.lookup key).getD (⟨blank, false⟩, nil)
        some (if path = [] then (⟨token, true⟩, below)
          else (entry, below.insert blank token path))
      else branches.lookup key := by
  induction branches with
  | nil =>
      rw [insert, lookup_chain]
      cases path <;> simp [lookup, insert, chain]
  | cons head entry below rest _ ih =>
      by_cases led : head = symbol
      · subst led
        cases path <;> by_cases same : head = key <;> simp [insert, lookup, same]
      · by_cases same : head = key
        · subst same
          cases path <;> simp [insert, lookup, led, Ne.symm led]
        · cases path <;> simpa [insert, lookup, led, same] using ih

end Branches

namespace Node
variable {α : Type}

def put (node : Node α) (blank token : α) : Path → Node α
  | [] => { node with entry := ⟨token, true⟩ }
  | symbol :: path => node.insert blank token (symbol :: path)

theorem child?_insert (node : Node α) (blank token : α) (symbol : Symbol) (path : Path)
    (key : Symbol) : (node.insert blank token (symbol :: path)).child? key =
      if symbol = key then
        some (((node.child? key).getD (leaf ⟨blank, false⟩)).put blank token path)
      else node.child? key := by
  refine child?_eq_of_lookup ?_
  rw [insert, Branches.lookup_insert, lookup_below]
  split
  · cases node.child? key <;> cases path <;> rfl
  · rfl

theorem entryAt?_put (node : Node α) (blank token : α) (path query : Path) :
    (node.put blank token path).entryAt? query =
      if query = path then some ⟨token, true⟩
      else (node.entryAt? query).or (if query <+: path then some ⟨blank, false⟩ else none) := by
  induction path generalizing node query with
  | nil =>
      cases query with
      | nil => rfl
      | cons key query => simp [put, entryAt?_cons, child?]
  | cons symbol path ih =>
      cases query with
      | nil => simp [put, insert]
      | cons key query =>
          rw [put, entryAt?_cons, child?_insert, entryAt?_cons]
          by_cases same : symbol = key
          · subst same
            simp only [↓reduceIte, Option.bind_some, ih, List.cons.injEq, true_and,
              List.cons_prefix_cons]
            cases node.child? symbol with
            | some child => rfl
            | none => cases query <;> simp [leaf, entryAt?_cons, child?, Branches.lookup]
          · simp [same, Ne.symm same]

theorem entryAt?_insert (node : Node α) (blank token : α) {path : Path} (filled : path ≠ [])
    (query : Path) : (node.insert blank token path).entryAt? query =
      if query = path then some ⟨token, true⟩
      else (node.entryAt? query).or (if query <+: path then some ⟨blank, false⟩ else none) := by
  obtain ⟨symbol, path, rfl⟩ := List.exists_cons_of_ne_nil filled
  exact node.entryAt?_put blank token (symbol :: path) query

end Node

namespace Trie
variable {α : Type}

def lastToken? (rules : List (Path × α)) (path : Path) : Option α :=
  ((rules.filter (·.1 = path)).getLast?).map Prod.snd

theorem lastToken?_cons (rule : Path × α) (rules : List (Path × α)) (path : Path) :
    lastToken? (rule :: rules) path =
      (lastToken? rules path).or (if rule.1 = path then some rule.2 else none) := by
  by_cases same : rule.1 = path
  · simp only [lastToken?, same, decide_true, List.filter_cons_of_pos, List.getLast?_cons]
    cases (rules.filter (·.1 = path)).getLast? <;> simp
  · simp [lastToken?, same]

def normalized (trie : Trie α) (rules : List (Path × α)) : List (Path × α) :=
  rules.map fun rule => (rule.1.map trie.normalize, rule.2)

theorem normalized_cons (trie : Trie α) (rule : Path × α) (rules : List (Path × α)) :
    trie.normalized (rule :: rules) =
      (rule.1.map trie.normalize, rule.2) :: trie.normalized rules := rfl

def entryAfter? (blank : α) (rules : List (Path × α)) (before : Option (Entry α))
    (query : Path) : Option (Entry α) :=
  match lastToken? rules query with
  | some token => some ⟨token, true⟩
  | none => before.or (if rules.any (query <+: ·.1) then some ⟨blank, false⟩ else none)

theorem entryAfter?_cons (blank : α) (rule : Path × α) (rules : List (Path × α))
    (before : Option (Entry α)) (query : Path) :
    entryAfter? blank (rule :: rules) before query =
      entryAfter? blank rules (if query = rule.1 then some ⟨rule.2, true⟩
        else before.or (if query <+: rule.1 then some ⟨blank, false⟩ else none)) query := by
  rw [entryAfter?, entryAfter?, lastToken?_cons]
  cases lastToken? rules query with
  | some token => rfl
  | none =>
      by_cases same : query = rule.1
      · simp [same]
      · by_cases leads : query <+: rule.1
        · cases before <;> simp [same, Ne.symm same, leads]
        · simp only [same, Ne.symm same, leads, ↓reduceIte, Option.or_none, List.any_cons,
            decide_false, Bool.false_or]

theorem insertAll_eq (trie : Trie α) (changeable : trie.frozen = false) {rules : List (Path × α)}
    (filled : ∀ rule ∈ rules, rule.1 ≠ []) :
    ∃ root : Node α, trie.insertAll rules = .ok { trie with root := root } ∧
      ∀ query, root.entryAt? query =
        entryAfter? trie.placeholder (trie.normalized rules) (trie.root.entryAt? query) query := by
  induction rules generalizing trie with
  | nil => exact ⟨trie.root, rfl, fun query => by simp [entryAfter?, lastToken?, normalized]⟩
  | cons rule rules ih =>
      obtain ⟨here, rest⟩ := List.forall_mem_cons.1 filled
      let step : Trie α := { trie with
        root := trie.root.insert trie.placeholder rule.2 (rule.1.map trie.normalize) }
      have stepped : trie.insert rule.1 rule.2 = .ok step := insert_of_ne_nil changeable here _
      obtain ⟨root, built, stands⟩ := ih step changeable rest
      refine ⟨root, ?_, fun query => ?_⟩
      · rw [insertAll, List.foldlM_cons, stepped]
        exact built
      · have put : step.root.entryAt? query = _ :=
          trie.root.entryAt?_insert _ _ (by simpa using here) query
        rw [stands, put, normalized_cons, entryAfter?_cons]
        rfl

end Trie
end Honji
