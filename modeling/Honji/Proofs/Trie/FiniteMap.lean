import Honji.Proofs.Trie.Order
import Honji.Proofs.Trie.Overlay
import Mathlib.Data.Finset.Card

/-!
A trie that is made of rules, as the finite map of their paths, closed under beginnings: what it
answers at each path, how many nodes it has, and in which order the children of each node stand. A
rule may go on where another one ends, end where another one goes on, or come to a path a second
time; a trie that ignores case takes paths for one that differ in it.
-/

namespace Honji

def Path.next? (path longer : Path) : Option Symbol :=
  if path <+: longer then longer[path.length]? else none

namespace Path

@[simp] theorem next?_nil_right (path : Path) : path.next? [] = none := by
  simp [next?]

theorem next?_cons_cons (first second : Symbol) (path longer : Path) :
    next? (first :: path) (second :: longer) =
      if first = second then path.next? longer else none := by
  by_cases same : first = second <;> simp [next?, same]

end Path

namespace Branches
variable {α : Type}

theorem keys_insert (blank token : α) (branches : Branches α) (symbol : Symbol) (path : Path) :
    (branches.insert blank token (symbol :: path)).keys =
      branches.keys ++ [symbol].removeAll branches.keys := by
  induction branches with
  | nil => simp [insert, keys_chain, keys, List.removeAll]
  | cons head entry below rest _ ih =>
      by_cases led : head = symbol
      · cases path <;> simp [insert, keys, led, List.removeAll]
      · have apart : [symbol].removeAll (head :: rest.keys) = [symbol].removeAll rest.keys := by
          simp [List.removeAll, List.filter_cons, Ne.symm led]
        cases path <;> simp only [insert, keys, led, ↓reduceIte, ih, apart, List.cons_append]

end Branches

namespace Node
variable {α : Type}

theorem keysAt_put (node : Node α) (blank token : α) (path query : Path) :
    (node.put blank token path).keysAt query =
      node.keysAt query ++ (query.next? path).toList.removeAll (node.keysAt query) := by
  induction path generalizing node query with
  | nil => cases query <;> simp [put, keysAt_cons, child?, keys, List.removeAll]
  | cons symbol path ih =>
      cases query with
      | nil => exact Branches.keys_insert blank token node.below symbol path
      | cons key query =>
          rw [put, keysAt_cons, child?_insert, keysAt_cons, Path.next?_cons_cons]
          by_cases same : symbol = key
          · subst same
            simp only [↓reduceIte, Option.elim_some, ih]
            cases node.child? symbol <;> simp
          · simp [same, Ne.symm same, List.removeAll]

theorem keysAt_insert (node : Node α) (blank token : α) {path : Path} (filled : path ≠ [])
    (query : Path) : (node.insert blank token path).keysAt query =
      node.keysAt query ++ (query.next? path).toList.removeAll (node.keysAt query) := by
  obtain ⟨symbol, path, rfl⟩ := List.exists_cons_of_ne_nil filled
  exact node.keysAt_put blank token (symbol :: path) query

end Node

namespace Trie
variable {α : Type}

def nexts (rules : List (Path × α)) (path : Path) : List Symbol :=
  (rules.filterMap fun rule => path.next? rule.1).eraseDups

def beginnings (rules : List (Path × α)) : Finset Path :=
  (rules.flatMap fun rule => rule.1.inits).toFinset.erase []

theorem mem_beginnings_iff {rules : List (Path × α)} {path : Path} :
    path ∈ beginnings rules ↔ path ≠ [] ∧ ∃ rule ∈ rules, path <+: rule.1 := by
  simp [beginnings]

theorem isSome_lastToken?_iff {rules : List (Path × α)} {path : Path} :
    (lastToken? rules path).isSome ↔ ∃ rule ∈ rules, rule.1 = path := by
  simp [lastToken?]

theorem any_entryAfter?_iff {blank : α} {rules : List (Path × α)} {path : Path} :
    (entryAfter? blank rules none path).any (·.terminal.taken) = true ↔
      ∃ rule ∈ rules, rule.1 = path := by
  rw [← isSome_lastToken?_iff, entryAfter?]
  cases lastToken? rules path with
  | some token => simp
  | none =>
      -- a path that only leads to rules is not one of them
      by_cases leads : ∃ rule ∈ rules, path <+: rule.1
      · simp [leads]
      · simp [leads]

theorem entryAfter?_ne_none_iff {blank : α} {rules : List (Path × α)} {path : Path} :
    entryAfter? blank rules none path ≠ none ↔ ∃ rule ∈ rules, path <+: rule.1 := by
  cases last : lastToken? rules path with
  | some token =>
      obtain ⟨rule, listed, same⟩ :=
        isSome_lastToken?_iff.1 (Option.isSome_iff_exists.2 ⟨token, last⟩)
      simp only [entryAfter?, last, ne_eq, reduceCtorEq, not_false_eq_true, true_iff]
      exact ⟨rule, listed, same ▸ List.prefix_rfl⟩
  | none => simp [entryAfter?, last]

/--
A trie answers as the finite map of rules that is closed under beginnings: the last rule for a path
counts, a path on the way to a rule holds the blank token, and no other path leads anywhere. All
paths are compared as the trie looks them up.
-/
structure Maps [Token α] (trie : Trie α) (rules : List (Path × α)) : Prop where
  get : ∀ query default, query ≠ [] → trie.get query default =
    match lastToken? (trie.normalized rules) (query.map trie.normalize) with
    | some token => token
    | none =>
        if ∃ rule ∈ trie.normalized rules, query.map trie.normalize <+: rule.1 then Token.blank
        else default
  contains : ∀ query, query ≠ [] →
    (trie.contains query = true ↔
      ∃ rule ∈ trie.normalized rules, rule.1 = query.map trie.normalize)
  size : trie.size = (beginnings (trie.normalized rules)).card
  order : ∀ path, (trie.find? path).elim [] Node.keys =
    nexts (trie.normalized rules) (path.map trie.normalize)

theorem nexts_append_singleton (rules : List (Path × α)) (rule : Path × α) (path : Path) :
    nexts (rules ++ [rule]) path =
      nexts rules path ++ (path.next? rule.1).toList.removeAll (nexts rules path) := by
  rw [nexts, nexts, List.filterMap_append, List.eraseDups_append]
  cases next : path.next? rule.1 with
  | none => simp [next, List.removeAll]
  | some symbol =>
      by_cases met : symbol ∈ rules.filterMap fun rule => path.next? rule.1
      · simp [next, List.removeAll, met]
      · simp [next, List.removeAll, List.eraseDups_cons, met]

section
variable [Token α]

theorem keysAt_ofRules {caseInsensitive : Bool} {rules : List (Path × α)} {trie : Trie α}
    (built : ofRules caseInsensitive rules = .ok trie) :
    trie.caseInsensitive = caseInsensitive ∧
      ∀ path, trie.root.keysAt path = nexts (trie.normalized rules) path := by
  induction rules using List.reverseRecOn generalizing trie with
  | nil =>
      obtain rfl := Except.ok.inj built
      exact ⟨rfl, fun path => Node.keysAt_leaf ..⟩
  | append_singleton rules rule ih =>
      rw [ofRules, insertAll, List.foldlM_append] at built
      obtain ⟨before, sown, last⟩ := Steps.bind_eq_ok.1 built
      have put : before.insert rule.1 rule.2 = .ok trie := by
        simpa only [List.foldlM_cons, List.foldlM_nil, bind_pure] using last
      obtain ⟨filled, -, rfl⟩ := insert_eq_ok.1 put
      obtain ⟨kept, ordered⟩ := ih sown
      refine ⟨kept, fun path => ?_⟩
      have written : rule.1.map before.normalize ≠ [] := by simpa using filled
      have after := before.root.keysAt_insert before.placeholder rule.2 written path
      rw [ordered] at after
      refine after.trans
        ((nexts_append_singleton _ (rule.1.map before.normalize, rule.2) path).symm.trans ?_)
      rw [normalized, normalized, List.map_append]
      rfl

theorem ofRules_maps (caseInsensitive : Bool) {rules : List (Path × α)}
    (filled : ∀ rule ∈ rules, rule.1 ≠ []) :
    ∃ trie : Trie α, ofRules caseInsensitive rules = .ok trie ∧
      trie.caseInsensitive = caseInsensitive ∧ trie.frozen = false ∧ trie.Maps rules := by
  obtain ⟨root, built, entries⟩ := ofRules_eq caseInsensitive filled
  let trie : Trie α := ⟨root, caseInsensitive, Token.blank, false⟩
  have stands : ∀ path, path ≠ [] → trie.root.entryAt? path =
      entryAfter? Token.blank (trie.normalized rules) none path := entries
  refine ⟨trie, built, rfl, rfl, fun query default found => ?_, fun query found => ?_, ?_,
    fun path => ?_⟩
  · rw [get_eq trie found, stands _ (by simpa using found), entryAfter?]
    cases lastToken? (trie.normalized rules) (query.map trie.normalize) with
    | some token => rfl
    | none =>
        by_cases leads : ∃ rule ∈ trie.normalized rules, query.map trie.normalize <+: rule.1
        · simp [leads]
        · simp [leads]
  · rw [contains_eq trie found, stands _ (by simpa using found), any_entryAfter?_iff]
  · have same : ((root.below.walk []).map Prod.fst).toFinset =
        beginnings (trie.normalized rules) := by
      ext path
      rw [List.mem_toFinset, Node.mem_map_walk_iff, mem_beginnings_iff]
      refine and_congr_right fun found => ?_
      rw [entries path found, entryAfter?_ne_none_iff]
      rfl
    rw [size_eq, ← same, List.toFinset_card_of_nodup (Node.nodup_walk root.distinct []),
      List.length_map, Branches.length_walk]
  · rw [find?_eq_find?_map]
    exact (keysAt_ofRules built).2 _

/--
Making a trie of rules is refused exactly if one of them has an empty path. Otherwise the trie is
their finite map closed under beginnings, whatever the rules are and in whatever order they come.
-/
theorem toTrie_maps (rules : List (Spelling × α)) (caseInsensitive : Bool) :
    ((∃ rule ∈ rules, rule.1.path = []) ∧
      (Mapping.sequence rules).toTrie caseInsensitive = .error .emptyPath) ∨
    ((∀ rule ∈ rules, rule.1.path ≠ []) ∧
      ∃ trie : Trie α, (Mapping.sequence rules).toTrie caseInsensitive = .ok trie ∧
        trie.caseInsensitive = caseInsensitive ∧ trie.frozen = false ∧
        trie.Maps (rules.map fun rule => (rule.1.path, rule.2))) := by
  rcases (Mapping.sequence rules).toTrie_cases caseInsensitive with ⟨empty, fails⟩ | ⟨filled, -⟩
  · exact .inl ⟨List.mem_map.1 empty, fails⟩
  · have each : ∀ rule ∈ rules, rule.1.path ≠ [] := fun rule listed none =>
      filled (List.mem_map.2 ⟨rule, listed, none⟩)
    refine .inr ⟨each, ofRules_maps caseInsensitive fun rule listed => ?_⟩
    obtain ⟨given, member, rfl⟩ := List.mem_map.1 listed
    exact each given member

end
end Trie
end Honji
