import Honji.Proofs.Composer.Lockstep
import Honji.Proofs.Registry
import Honji.Proofs.RoundTrip.Typable
import Honji.Proofs.Trie.Overlay

/-!
The composers that are made from the standard tables. In either spelling and under any rules of a
caller's own their tries are alike and ignore case.
-/

namespace Honji

namespace ComposerRules
variable {rules : ComposerRules}

theorem caseInsensitive_of_spellingTrie {script : Script} {obsolete : Bool}
    {trie spelled : Trie Text} (given : rules.spellingTrie script obsolete trie = .ok spelled) :
    spelled.caseInsensitive = trie.caseInsensitive := by
  unfold spellingTrie at given
  split at given
  · obtain ⟨layer, -, made⟩ := Steps.bind_eq_ok.1 given
    obtain rfl := Except.ok.inj made
    rfl
  · obtain rfl := Except.ok.inj given
    rfl

theorem caseInsensitive_of_compile {hiragana : Trie Text} {obsolete : Choice}
    {ruleSet : ComposerRuleSet} (first : rules.scriptTrie .hiragana = .ok hiragana)
    (compiled : rules.compile obsolete = .ok ruleSet) :
    ruleSet.hiragana.caseInsensitive = hiragana.caseInsensitive := by
  obtain ⟨trie, built, compiled⟩ := Steps.bind_eq_ok.1 compiled
  obtain rfl := Except.ok.inj (first.symm.trans built)
  obtain ⟨katakana, -, compiled⟩ := Steps.bind_eq_ok.1 compiled
  obtain ⟨spelled, given, compiled⟩ := Steps.bind_eq_ok.1 compiled
  obtain ⟨other, -, made⟩ := Steps.bind_eq_ok.1 compiled
  obtain rfl := Except.ok.inj made
  show spelled.caseInsensitive = _
  exact caseInsensitive_of_spellingTrie given

end ComposerRules

namespace Composer

structure Paired (composer : Composer) : Prop where
  alike : composer.hiragana.Alike composer.katakana
  ignores : composer.hiragana.caseInsensitive = true

theorem caseInsensitive_of_create {ruleSet : ComposerRuleSet} {own : Option (Mapping Text)}
    {composer : Composer} (created : create ruleSet own = .ok composer) :
    composer.hiragana.caseInsensitive = ruleSet.hiragana.caseInsensitive := by
  obtain ⟨hiragana, given, created⟩ := Steps.bind_eq_ok.1 created
  obtain ⟨katakana, -, made⟩ := Steps.bind_eq_ok.1 created
  obtain rfl := Except.ok.inj made
  show hiragana.caseInsensitive = _
  exact Trie.caseInsensitive_of_overlay given

theorem caseInsensitive_of_active {composer : Composer} {call : Option (Mapping Text)}
    {hiragana katakana : Trie Text} (active : composer.active call = .ok (hiragana, katakana)) :
    hiragana.caseInsensitive = composer.hiragana.caseInsensitive := by
  obtain ⟨laid, given, active⟩ := Steps.bind_eq_ok.1 active
  obtain ⟨other, -, made⟩ := Steps.bind_eq_ok.1 active
  obtain ⟨rfl, rfl⟩ := Prod.mk.inj (Except.ok.inj made)
  exact Trie.caseInsensitive_of_overlay given

end Composer

namespace ComposerRules

theorem exists_standard (obsolete : Choice) : ∃ ruleSet,
    standard.compile obsolete = .ok ruleSet ∧ ruleSet.hiragana.Alike ruleSet.katakana ∧
      ruleSet.hiragana.caseInsensitive = true := by
  obtain ⟨hiragana, katakana, first, second, keyboard, -⟩ := exists_supports
  have filled : [] ∉ standard.obsoletePaths obsolete.taken := by
    cases obsolete.taken <;> decide
  rcases compile_cases first second obsolete with ⟨empty, -⟩ | ⟨-, ruleSet, compiled, alike⟩
  · exact absurd empty filled
  · refine ⟨ruleSet, compiled, alike, ?_⟩
    rw [caseInsensitive_of_compile first compiled, keyboard.ignores]

theorem makeComposer_standard (obsolete : Choice) (own : Option (Mapping Text)) :
    ([] ∈ Mapping.pathsOf own ∧ standard.makeComposer obsolete own = .error .emptyPath) ∨
      ([] ∉ Mapping.pathsOf own ∧ ∃ composer, standard.makeComposer obsolete own = .ok composer ∧
        composer.Paired) := by
  obtain ⟨ruleSet, compiled, alike, ignores⟩ := exists_standard obsolete
  have made : standard.makeComposer obsolete own = Composer.create ruleSet own := by
    rw [makeComposer, compiled]
    rfl
  rw [made]
  rcases create_cases alike own with refused | ⟨filled, composer, created, alike⟩
  · exact .inl refused
  · refine .inr ⟨filled, composer, created, alike, ?_⟩
    rw [Composer.caseInsensitive_of_create created, ignores]

end ComposerRules

namespace Registry

theorem run_newComposer (history : List Request) (obsolete : Choice)
    (own : Option (Mapping Text)) :
    (Steps.run (newComposer obsolete own) (after history)).1 =
      ComposerRules.standard.makeComposer obsolete own := by
  have yields := (yields_newComposer obsolete own _ (consistent_after history)).1
  rw [Except.map_id] at yields
  exact yields

end Registry
end Honji
