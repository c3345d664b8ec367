import Honji.Proofs.Trie.Layers

/-!
Tries that swallow nothing, and what rules laid over one may swallow. Where every node below the
root has something to write, every piece of a text is written. Rules laid over such a trie bring
nodes that only lead to them; a piece is swallowed exactly if it ends on one of these.
-/

namespace Honji

/-- Rules as they are written, each for some symbols and with something to write; or none at all. -/
def Mapping.Spoken (mapping : Option (Mapping Text)) : Prop :=
  ∀ given ∈ mapping, ∃ pairs, given.pairs? = some pairs ∧
    ∀ pair ∈ pairs, pair.1.path ≠ [] ∧ pair.2 ≠ []

namespace Trie

theorem exists_rule_of_lastToken? {α : Type} {rules : List (Path × α)} {path : Path} {token : α}
    (given : lastToken? rules path = some token) : (path, token) ∈ rules := by
  obtain ⟨rule, last, rfl⟩ := Option.map_eq_some_iff.1 given
  obtain ⟨member, same⟩ := List.mem_filter.1 (List.mem_of_getLast? last)
  rwa [← of_decide_eq_true same]

theorem exists_rule_of_entryAfter? {α : Type} {blank : α} {rules : List (Path × α)} {path : Path}
    {entry : Entry α} (found : entryAfter? blank rules none path = some entry) :
    ∃ rule ∈ rules, path <+: rule.1 := by
  rw [entryAfter?] at found
  split at found
  · next token given => exact ⟨_, exists_rule_of_lastToken? given, List.prefix_refl path⟩
  · rw [Option.none_or] at found
    split at found
    · next leads =>
      obtain ⟨rule, member, ahead⟩ := List.any_eq_true.1 leads
      exact ⟨rule, member, of_decide_eq_true ahead⟩
    · cases found

theorem entryAt?_of_prefix {α : Type} {node : Node α} {path longer : Path}
    (ahead : path <+: longer) (known : node.entryAt? longer ≠ none) :
    node.entryAt? path ≠ none := by
  obtain ⟨rest, rfl⟩ := ahead
  rw [Ne, Node.entryAt?_eq_none_iff] at known ⊢
  intro missing
  rw [Node.find?_append, missing] at known
  exact known rfl

def Filled (trie : Trie Text) : Prop :=
  ∀ path entry, path ≠ [] → trie.root.entryAt? path = some entry → entry.token ≠ []

/--
A trie has the nodes of another one, and has nothing to write at just those further nodes at which
no rule ends.
-/
structure Echoing (base trie : Trie Text) : Prop where
  caseInsensitive : trie.caseInsensitive = base.caseInsensitive
  kept : ∀ path, base.root.entryAt? path ≠ none → trie.root.entryAt? path ≠ none
  silent : ∀ path entry, path ≠ [] → trie.root.entryAt? path = some entry →
    (entry.token = [] ↔ entry.terminal.taken = false ∧ base.root.entryAt? path = none)

variable {base trie layer : Trie Text} {rules : List (Path × Text)}

theorem Filled.echoing (filled : Filled trie) : Echoing trie trie where
  caseInsensitive := rfl
  kept := fun _ => id
  silent := fun path entry below found => by simp [filled path entry below found, found]

namespace Echoing

theorem laid (echoing : Echoing base trie) (spoken : ∀ rule ∈ rules, rule.2 ≠ [])
    (stands : ∀ path, path ≠ [] →
      layer.root.entryAt? path = entryAfter? Token.blank rules none path) :
    Echoing base (laid Resolver.ruled trie layer) where
  caseInsensitive := echoing.caseInsensitive
  kept := fun path known => by
    cases path with
    | nil => exact nofun
    | cons symbol path =>
        obtain ⟨entry, there⟩ := Option.ne_none_iff_exists'.1 (echoing.kept _ known)
        rw [entryAt?_laid Resolver.plain_ruled _ _ (by simp), there]
        cases layer.root.entryAt? (symbol :: path) <;> exact nofun
  silent := fun path entry below found => by
    have answer : (some entry).map Entry.answer = _ :=
      found ▸ answer_laid below (stands path below)
    rw [Option.map_some] at answer
    cases given : lastToken? rules path with
    | some token =>
        obtain ⟨written, ends⟩ := Prod.mk.inj (Option.some.inj (answer.trans (by rw [given])))
        rw [written, ends]
        simp [spoken _ (exists_rule_of_lastToken? given)]
    | none =>
        simp only [given] at answer
        cases there : trie.root.entryAt? path with
        | some old =>
            rw [there, Option.map_some, Option.some_or] at answer
            obtain ⟨written, ends⟩ := Prod.mk.inj (Option.some.inj answer)
            rw [written, ends]
            exact echoing.silent path old below there
        | none =>
            have absent : base.root.entryAt? path = none := by
              by_contra known
              exact echoing.kept path known there
            rw [there, Option.map_none, Option.none_or] at answer
            split at answer
            · obtain ⟨written, ends⟩ := Prod.mk.inj (Option.some.inj answer)
              rw [written, ends, absent]
              exact ⟨fun _ => ⟨rfl, rfl⟩, fun _ => rfl⟩
            · cases answer

theorem overlay (echoing : Echoing base trie) {mapping : Option (Mapping Text)}
    (spoken : Mapping.Spoken mapping) :
    ∃ laid, trie.overlay Resolver.ruled mapping = .ok laid ∧ Echoing base laid := by
  cases mapping with
  | none => exact ⟨trie, rfl, echoing⟩
  | some mapping =>
      obtain ⟨pairs, listed, each⟩ := spoken mapping rfl
      obtain ⟨root, built, stands⟩ := ofRules_eq trie.caseInsensitive
        (List.forall_mem_map.2 fun pair member => (each pair member).1 :
          ∀ rule ∈ pairs.map Spelling.rule, rule.1 ≠ [])
      have written : mapping.rules? = some (pairs.map Spelling.rule) := by
        rw [mapping.rules?_eq, listed]
        rfl
      refine ⟨_, by rw [overlay_some, toTrie_of_rules? written, built]; rfl,
        echoing.laid (fun rule member => ?_) stands⟩
      obtain ⟨one, inside, rfl⟩ := List.mem_map.1 member
      obtain ⟨pair, given, rfl⟩ := List.mem_map.1 inside
      exact (each pair given).2

theorem freeze (echoing : Echoing base trie) : Echoing base trie.freeze :=
  ⟨echoing.caseInsensitive, echoing.kept, echoing.silent⟩

theorem normalize (echoing : Echoing base trie) : trie.normalize = base.normalize := by
  funext symbol
  rw [Trie.normalize, Trie.normalize, echoing.caseInsensitive]

theorem silent_headMatch (echoing : Echoing base trie) (start : Nat) (character : Char)
    (rest : Text) : (trie.headMatch start character rest).token = [] ↔
      (trie.headMatch start character rest).kind = .placeholder ∧
        base.find? (Path.ofText (trie.headMatch start character rest).source) = none := by
  by_cases known : trie.step? trie.root [character] = none
  · rw [headMatch_none known]
    simp [Token.ofText]
  · obtain ⟨taken, later, node, rfl, reached, halts⟩ := exists_reach rest known
    rw [headMatch_eq reached halts]
    have found : trie.root.entryAt?
        ((Path.ofText (character :: taken)).map trie.normalize) = some node.entry := by
      rw [← find?_map_entry, find?_ofText, reached]
      rfl
    have silent := echoing.silent _ node.entry (by simp) found
    rw [echoing.normalize, ← find?_map_entry, Option.map_eq_none_iff] at silent
    simp only [silent, kindAt]
    cases node.entry.terminal.taken <;> simp

end Echoing
end Trie
end Honji
