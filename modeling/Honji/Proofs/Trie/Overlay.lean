import Honji.Proofs.Steps
import Honji.Proofs.Trie.Insertion

/-!
A caller's rules laid over a trie, path by path. The last token that the rules give for a path
counts, then what the trie has there; on the way to a rule stands a blank, and nothing elsewhere.
-/

namespace Honji

def Mapping.rules? {α : Type} : Mapping α → Option (List (Path × α))
  | .sequence rules => some (rules.map fun rule => (rule.1.path, rule.2))
  | .table rules => some (rules.entries.map fun rule => (rule.1.path, rule.2))
  | .trie _ => none

namespace Trie
variable {α : Type}

/-! ### Answers of a trie in terms of what stands at its paths -/

theorem find?_map_entry (trie : Trie α) (path : Path) :
    (trie.find? path).map (·.entry) = trie.root.entryAt? (path.map trie.normalize) := by
  rw [find?_eq_find?_map, Node.entryAt?]

theorem find?_eq_none_iff {trie : Trie α} {path : Path} :
    trie.find? path = none ↔ trie.root.entryAt? (path.map trie.normalize) = none := by
  rw [← find?_map_entry, Option.map_eq_none_iff]

theorem get_eq (trie : Trie α) {path : Path} (filled : path ≠ []) (default : α) :
    trie.get path default =
      ((trie.root.entryAt? (path.map trie.normalize)).map (·.token)).getD default := by
  rw [get, if_neg (by simpa using filled), ← find?_map_entry]
  cases trie.find? path <;> rfl

theorem contains_eq (trie : Trie α) {path : Path} (filled : path ≠ []) :
    trie.contains path =
      (trie.root.entryAt? (path.map trie.normalize)).any (·.terminal.taken) := by
  rw [contains, ← find?_map_entry, List.isEmpty_eq_false_iff.2 filled]
  cases trie.find? path <;> rfl

/-! ### Laying rules over a trie -/

def ruleFor? (base : Trie α) (rules : List (Path × α)) (query : Path) : Option α :=
  lastToken? (base.normalized rules) (query.map base.normalize)

def leadsTo (base : Trie α) (rules : List (Path × α)) (query : Path) : Bool :=
  (base.normalized rules).any (query.map base.normalize <+: ·.1)

section
variable [Token α]

/-- A trie is made from another one and a caller's rules, which count more. -/
structure Overlays (base : Trie α) (rules : List (Path × α)) (laid : Trie α) : Prop where
  ruled : ∀ query token default, base.ruleFor? rules query = some token →
    laid.get query default = token
  kept : ∀ query default, query ≠ [] → base.ruleFor? rules query = none →
    base.find? query ≠ none → laid.find? query ≠ none ∧
      laid.get query default = base.get query default
  waiting : ∀ query, query ≠ [] → base.ruleFor? rules query = none → base.find? query = none →
    base.leadsTo rules query = true →
      (laid.find? query).map (·.entry) = some ⟨Token.blank, some false⟩
  unknown : ∀ query, query ≠ [] → base.ruleFor? rules query = none → base.find? query = none →
    base.leadsTo rules query = false → laid.find? query = none
  contains : ∀ query,
    laid.contains query = (base.contains query || (base.ruleFor? rules query).isSome)
  caseInsensitive : laid.caseInsensitive = base.caseInsensitive
  frozen : laid.frozen = false

def laid (resolve : Resolver α) (base layer : Trie α) : Trie α :=
  merged resolve [base, layer] base.caseInsensitive

variable (resolve : Resolver α) (base layer : Trie α)

theorem overlay_some (mapping : Mapping α) :
    base.overlay resolve (some mapping) =
      (mapping.toTrie base.caseInsensitive).map (laid resolve base) := by
  cases given : mapping.toTrie base.caseInsensitive <;>
    simp [overlay, given, bind, Except.bind, Except.map, pure, Except.pure, laid]

theorem normalize_laid : (laid resolve base layer).normalize = base.normalize := rfl

end

variable [Token α]

theorem entryAt?_laid {resolve : Resolver α} (plain : resolve.Plain) (base layer : Trie α)
    {path : Path} (filled : path ≠ []) :
    (laid resolve base layer).root.entryAt? path =
      match base.root.entryAt? path, layer.root.entryAt? path with
      | some entry, some other =>
          some ⟨resolve entry.alone other.alone, entry.terminal.either other.terminal⟩
      | some entry, none => some entry
      | none, found => found := by
  obtain ⟨symbol, path, rfl⟩ := List.exists_cons_of_ne_nil filled
  have empty (entry : Entry α) : (Node.leaf entry).entryAt? (symbol :: path) = none := by
    simp [Node.entryAt?_cons]
  cases here : base.root.entryAt? (symbol :: path) <;>
    cases there : layer.root.entryAt? (symbol :: path) <;>
    simp only [laid, merged, Trie.empty, List.foldl_cons, List.foldl_nil,
      Node.entryAt?_merge plain, empty, here, there]

theorem ofRules_eq (caseInsensitive : Bool) {rules : List (Path × α)}
    (filled : ∀ rule ∈ rules, rule.1 ≠ []) :
    ∃ root : Node α,
      ofRules caseInsensitive rules = .ok ⟨root, caseInsensitive, Token.blank, false⟩ ∧
      ∀ query, query ≠ [] → root.entryAt? query =
        entryAfter? Token.blank ((empty caseInsensitive Token.blank).normalized rules) none
          query := by
  obtain ⟨root, built, stands⟩ :=
    insertAll_eq (empty caseInsensitive (Token.blank : α)) rfl filled
  refine ⟨root, built, fun query found => ?_⟩
  obtain ⟨symbol, query, rfl⟩ := List.exists_cons_of_ne_nil found
  rw [stands]
  rfl

section
variable {base layer : Trie α} {rules : List (Path × α)} {path : Path} (filled : path ≠ [])
  (stands : layer.root.entryAt? path = entryAfter? Token.blank rules none path)
include filled stands

theorem entryAt?_laid_rule {token : α} (given : lastToken? rules path = some token) :
    (laid Resolver.ruled base layer).root.entryAt? path = some ⟨token, some true⟩ := by
  have put : layer.root.entryAt? path = some ⟨token, true⟩ := by
    rw [stands, entryAfter?, given]
  rw [entryAt?_laid Resolver.plain_ruled _ _ filled, put]
  cases base.root.entryAt? path with
  | none => rfl
  | some entry => rcases entry with ⟨_, _ | _ | _⟩ <;> rfl

theorem entryAt?_laid_base {entry : Entry α} (given : lastToken? rules path = none)
    (there : base.root.entryAt? path = some entry) :
    ∃ terminal : Choice, terminal.taken = entry.terminal.taken ∧
      (laid Resolver.ruled base layer).root.entryAt? path = some ⟨entry.token, terminal⟩ := by
  rw [entryAt?_laid Resolver.plain_ruled _ _ filled, there, stands, entryAfter?, given]
  by_cases leads : rules.any (path <+: ·.1) = true
  · -- the rules have a blank here, which does not count
    rw [if_pos leads]
    exact ⟨_, by simp, rfl⟩
  · rw [if_neg leads]
    exact ⟨_, rfl, rfl⟩

theorem entryAt?_laid_none (given : lastToken? rules path = none)
    (absent : base.root.entryAt? path = none) :
    (laid Resolver.ruled base layer).root.entryAt? path =
      if rules.any (path <+: ·.1) then some ⟨Token.blank, some false⟩ else none := by
  rw [entryAt?_laid Resolver.plain_ruled _ _ filled, absent, stands, entryAfter?, given]
  rfl

end

theorem overlays_laid {base layer : Trie α} {rules : List (Path × α)}
    (filled : ∀ rule ∈ rules, rule.1 ≠ [])
    (stands : ∀ path, path ≠ [] →
      layer.root.entryAt? path = entryAfter? Token.blank (base.normalized rules) none path) :
    Overlays base rules (laid Resolver.ruled base layer) := by
  have written {query : Path} (found : query ≠ []) : query.map base.normalize ≠ [] := by
    simpa using found
  have ruled {query : Path} {token : α} (given : base.ruleFor? rules query = some token) :
      query ≠ [] := by
    rintro rfl
    obtain ⟨rule, last, -⟩ := Option.map_eq_some_iff.1 given
    have member := List.mem_filter.1 (List.mem_of_getLast? last)
    obtain ⟨⟨path, token⟩, listed, rfl⟩ := List.mem_map.1 member.1
    exact filled _ listed (by simpa using member.2)
  refine ⟨fun query token default given => ?_, fun query default found given there => ?_,
    fun query found given absent leads => ?_, fun query found given absent leads => ?_,
    fun query => ?_, rfl, rfl⟩
  · have found := ruled given
    rw [get_eq _ found, normalize_laid,
      entryAt?_laid_rule (written found) (stands _ (written found)) given]
    rfl
  · obtain ⟨entry, at_⟩ := Option.ne_none_iff_exists'.1 (mt find?_eq_none_iff.2 there)
    obtain ⟨terminal, -, same⟩ :=
      entryAt?_laid_base (written found) (stands _ (written found)) given at_
    rw [Ne, find?_eq_none_iff, get_eq _ found, get_eq _ found, normalize_laid, same, at_]
    exact ⟨by simp, rfl⟩
  · rw [find?_map_entry, normalize_laid, entryAt?_laid_none (written found)
      (stands _ (written found)) given (find?_eq_none_iff.1 absent)]
    exact if_pos leads
  · rw [find?_eq_none_iff, normalize_laid, entryAt?_laid_none (written found)
      (stands _ (written found)) given (find?_eq_none_iff.1 absent)]
    exact if_neg (by simpa [leadsTo] using leads)
  · by_cases found : query = []
    · subst found
      cases given : base.ruleFor? rules [] with
      | none => rfl
      | some token => exact absurd rfl (ruled given)
    · rw [contains_eq _ found, contains_eq _ found, normalize_laid]
      cases given : base.ruleFor? rules query with
      | some token =>
          rw [entryAt?_laid_rule (written found) (stands _ (written found)) given]
          simp
      | none =>
          cases at_ : base.root.entryAt? (query.map base.normalize) with
          | some entry =>
              obtain ⟨terminal, taken, same⟩ :=
                entryAt?_laid_base (written found) (stands _ (written found)) given at_
              simp [same, taken]
          | none =>
              rw [entryAt?_laid_none (written found) (stands _ (written found)) given at_]
              split <;> rfl

theorem toTrie_of_rules? {mapping : Mapping α} {rules : List (Path × α)}
    (listed : mapping.rules? = some rules) (caseInsensitive : Bool) :
    mapping.toTrie caseInsensitive = ofRules caseInsensitive rules := by
  cases mapping with
  | sequence _ | table _ =>
      obtain rfl := Option.some.inj listed
      rfl
  | trie _ => simp [Mapping.rules?] at listed

theorem caseInsensitive_of_overlay {resolve : Resolver α} {base laid : Trie α}
    {mapping : Option (Mapping α)}
    (given : base.overlay resolve mapping = .ok laid) :
    laid.caseInsensitive = base.caseInsensitive := by
  cases mapping with
  | none =>
      obtain rfl := Except.ok.inj given
      rfl
  | some mapping =>
      obtain ⟨rules, -, made⟩ := Steps.bind_eq_ok.1 given
      obtain rfl := Except.ok.inj made
      rfl

theorem overlays_overlay (base : Trie α) {mapping : Mapping α} {rules : List (Path × α)}
    (listed : mapping.rules? = some rules) (filled : ∀ rule ∈ rules, rule.1 ≠ []) :
    ∃ laid, base.overlay Resolver.ruled (some mapping) = .ok laid ∧ Overlays base rules laid := by
  obtain ⟨root, built, stands⟩ := ofRules_eq base.caseInsensitive filled
  let layer : Trie α := ⟨root, base.caseInsensitive, Token.blank, false⟩
  refine ⟨laid Resolver.ruled base layer, ?_, overlays_laid filled stands⟩
  rw [overlay_some, toTrie_of_rules? listed, built]
  rfl

end Trie
end Honji
