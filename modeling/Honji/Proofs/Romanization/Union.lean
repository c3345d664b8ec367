import Honji.Proofs.Forest.Freezing
import Honji.Proofs.Romanization.Published

/-!
The published trie of a romanization method is the union of the tries of the two scripts and the
punctuation: nothing of either script is lost, and nothing else is there.
-/

namespace Honji

theorem Trie.find?_of_caseSensitive {α : Type} {trie : Trie α}
    (plain : trie.caseInsensitive = false) (path : Path) :
    trie.find? path = trie.root.find? path := by
  have normal : trie.normalize = id := by
    funext symbol
    simp [normalize, plain]
  rw [find?_eq_find?_map, normal, List.map_id]

namespace Node.Holds
variable {node other : Node Text} {rules others : List Rule} {path : Path}

theorem isSome_find?_iff (holds : node.Holds rules) (filled : path ≠ []) :
    (node.find? path).isSome = true ↔ path ∈ rules.map Prod.fst := by
  rw [← Decidable.not_iff_not, Option.not_isSome_iff_eq_none, ← Node.entryAt?_eq_none_iff,
    holds.entryAt?_eq_none_iff filled]

theorem map_entry_of_subset (holds : node.Holds rules) (more : other.Holds others)
    (within : rules ⊆ others) (filled : path ≠ []) {found : Node Text}
    (reached : node.find? path = some found) :
    (other.find? path).map Node.entry = some found.entry := by
  have stands : node.entryAt? path = some found.entry := Option.map_eq_some_iff.2 ⟨_, reached, rfl⟩
  obtain ⟨token, member, same⟩ := holds.exists_of_entryAt? filled stands
  rw [same]
  exact more.entryAt?_of_mem filled (within member)

end Node.Holds

namespace RomanizationRules
variable {rules : RomanizationRules}

/--
A published trie has the paths of both scripts and the punctuation marks, and no others. What a
script has at a path, it has there too; a mark is a leaf; every node below the root ends a rule; and
the trie is frozen, as is every node of it that stands in a forest.
-/
structure Unites (rules : RomanizationRules) (hiragana katakana trie : Trie Text) : Prop where
  paths : ∀ path ≠ [], (trie.find? path).isSome = true ↔
    (hiragana.find? path).isSome = true ∨ (katakana.find? path).isSome = true ∨
      ∃ mark ∈ rules.punctuation.keys, path = [mark]
  hiragana : ∀ path ≠ [], ∀ node, hiragana.find? path = some node →
    (trie.find? path).map Node.entry = some node.entry
  katakana : ∀ path ≠ [], ∀ node, katakana.find? path = some node →
    (trie.find? path).map Node.entry = some node.entry
  marks : ∀ mark ∈ rules.punctuation.entries, ∃ node, trie.find? [mark.1] = some node ∧
    node.entry.token = mark.2 ∧ node.keys = []
  terminal : ∀ path ≠ [], ∀ node, trie.find? path = some node → node.entry.terminal.taken = true
  frozen : trie.frozen = true
  frozenNodes : ∀ forest : Forest Datum, ∃ planted after,
    Steps.run (Grove.plantPublished trie) forest = (.ok planted, after) ∧
      planted.read after = Grove.stored trie ∧
      ∀ path node, planted.find? after path = some node →
        ∃ cell, after.cell? node = some cell ∧ cell.frozen = true

theorem Compiled.keys_mark {hiragana katakana : Trie Text} {ruleSet : RuleSet}
    (made : rules.Compiled hiragana katakana ruleSet) (wellMade : rules.WellMade)
    {mark : Symbol} (key : mark ∈ rules.punctuation.keys) {node : Node Text}
    (reached : ruleSet.trie.root.find? [mark] = some node) : node.keys = [] := by
  refine List.eq_nil_iff_forall_not_mem.2 fun symbol inside => ?_
  -- a path through the mark would be one of a script, which then had the mark among its root keys
  have longer : [mark] ++ [symbol] ∈ rules.publishedRules.map Prod.fst :=
    made.root.taken_iff.1 (by simpa [reached] using inside)
  rw [publishedRules, List.map_append, List.map_append, List.mem_append, List.mem_append] at longer
  rcases longer with (script | script) | single
  · exact wellMade.marksFree _ _ made.first _ key (made.hiragana.root.mem_keys_of_path script)
  · exact wellMade.marksFree _ _ made.second _ key (made.katakana.root.mem_keys_of_path script)
  · simp [punctuationRules] at single

theorem Compiled.unites {hiragana katakana : Trie Text} {ruleSet : RuleSet}
    (made : rules.Compiled hiragana katakana ruleSet) (wellMade : rules.WellMade) :
    rules.Unites hiragana katakana ruleSet.trie := by
  have published := Trie.find?_of_caseSensitive made.caseSensitive
  have first := Trie.find?_of_caseSensitive made.hiragana.caseSensitive
  have second := Trie.find?_of_caseSensitive made.katakana.caseSensitive
  have paths : ∀ path ≠ [], (ruleSet.trie.find? path).isSome = true ↔
      (hiragana.find? path).isSome = true ∨ (katakana.find? path).isSome = true ∨
        ∃ mark ∈ rules.punctuation.keys, path = [mark] := by
    intro path filled
    rw [published, first, second, made.root.isSome_find?_iff filled,
      made.hiragana.root.isSome_find?_iff filled, made.katakana.root.isSome_find?_iff filled,
      publishedRules, List.map_append, List.map_append, List.mem_append, List.mem_append, or_assoc]
    refine or_congr_right (or_congr_right ?_)
    simp [punctuationRules, Table.keys, eq_comm]
  refine ⟨paths, fun path filled node reached => ?_, fun path filled node reached => ?_,
    fun mark member => ?_, fun path filled node reached => ?_, made.frozen, fun forest => ?_⟩
  · rw [first] at reached
    rw [published]
    refine made.hiragana.root.map_entry_of_subset made.root (fun rule inside => ?_) filled reached
    exact List.mem_append_left _ (List.mem_append_left _ inside)
  · rw [second] at reached
    rw [published]
    refine made.katakana.root.map_entry_of_subset made.root (fun rule inside => ?_) filled reached
    exact List.mem_append_left _ (List.mem_append_right _ inside)
  · have listed : ([mark.1], mark.2) ∈ rules.publishedRules :=
      List.mem_append_right _ (List.mem_map.2 ⟨mark, member, rfl⟩)
    obtain ⟨node, reached, entry⟩ :=
      Option.map_eq_some_iff.1 (made.root.entryAt?_of_mem (by simp) listed)
    exact ⟨node, by rw [published, reached], by rw [entry],
      made.keys_mark wellMade (List.mem_map_of_mem member) reached⟩
  · rw [published] at reached
    obtain ⟨token, -, same⟩ := made.root.exists_of_entryAt? filled
      (Option.map_eq_some_iff.2 ⟨node, reached, rfl⟩)
    rw [same]
    rfl
  · exact made.frozen ▸ Grove.run_plantPublished ruleSet.trie forest

theorem compile_unites {ruleSet : RuleSet} (compiled : rules.compile = .ok ruleSet) :
    ∃ hiragana katakana, rules.scriptTrie .hiragana = .ok hiragana ∧
      rules.scriptTrie .katakana = .ok katakana ∧ rules.Unites hiragana katakana ruleSet.trie := by
  rcases rules.compile_cases with
    ⟨wellMade, hiragana, katakana, other, made⟩ | ⟨-, failure, fails, -⟩
  · obtain rfl := Except.ok.inj (compiled.symm.trans made.compiled)
    exact ⟨hiragana, katakana, made.first, made.second, made.unites wellMade⟩
  · rw [fails] at compiled
    cases compiled

def latinSyllable : RomanizationRules :=
  { standard .hepburn (.ofStrings [("き", "ki"), ("ん", "n"), ("A", "a")]) (.ofPairs (regular "き"))
      .macron with
    punctuation := .ofStrings [("、", ",")] }

theorem compile_unites_latinSyllable : ∃ ruleSet, latinSyllable.compile = .ok ruleSet ∧
    ∃ hiragana katakana, latinSyllable.scriptTrie .hiragana = .ok hiragana ∧
      latinSyllable.scriptTrie .katakana = .ok katakana ∧
      latinSyllable.Unites hiragana katakana ruleSet.trie := by
  have known : latinSyllable.compile.isOk = true := by decide +kernel
  cases outcome : latinSyllable.compile with
  | error failure => simp [outcome, Except.isOk, Except.toBool] at known
  | ok ruleSet => exact ⟨ruleSet, rfl, compile_unites outcome⟩

end RomanizationRules
end Honji
