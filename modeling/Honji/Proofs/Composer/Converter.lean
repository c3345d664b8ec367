import Honji.Proofs.Composer.Typing
import Honji.Proofs.Registry

/-!
What the plain converter to kana works with: the frozen standard tries of both scripts.
-/

namespace Honji

/-! ### Matching under a frozen trie -/

namespace Trie
variable {α : Type} (trie : Trie α)

theorem step?_freeze : trie.freeze.step? = trie.step? := rfl

theorem follow_freeze (node : Node α) (text : Text) :
    trie.freeze.follow node text = trie.follow node text := by
  induction text generalizing node with
  | nil => rfl
  | cons character rest ih => simp only [follow, step?_freeze, ih]

theorem headMatch_freeze [Token α] : trie.freeze.headMatch = trie.headMatch := by
  funext start character rest
  simp only [headMatch, step?_freeze, follow_freeze]
  rfl

end Trie

namespace Composer
variable {hiragana katakana : Trie Text}

theorem compose_freeze (hiragana katakana : Trie Text) (text : Text) :
    compose hiragana.freeze katakana.freeze text = compose hiragana katakana text := by
  have pieces : headMatch hiragana.freeze katakana.freeze = headMatch hiragana katakana := by
    funext start character rest
    simp only [headMatch, Trie.headMatch_freeze]
  rw [compose, tokenize, pieces]
  rfl

theorem outcome_convert (composer : Composer) (text : Text) :
    (composer.convert text none).outcome =
      .ok (compose composer.hiragana composer.katakana text) := by
  cases text <;> rfl

theorem exists_create {rules : ComposerRules}
    (first : rules.scriptTrie .hiragana = .ok hiragana)
    (second : rules.scriptTrie .katakana = .ok katakana) :
    ∃ composer, (rules.compile (some false) >>= fun ruleSet => create ruleSet none) = .ok composer ∧
      ∀ text, (composer.convert text none).outcome = .ok (compose hiragana katakana text) := by
  let ruleSet : ComposerRuleSet := ⟨hiragana.freeze, katakana.freeze, some false⟩
  have compiled : rules.compile (some false) = .ok ruleSet := by
    simp [ComposerRules.compile, first, second, ComposerRules.spellingTrie, Choice.taken, ruleSet,
      bind, Except.bind, pure, Except.pure]
  refine ⟨⟨ruleSet, hiragana.freeze, katakana.freeze, false⟩, ?_, fun text => ?_⟩
  · simp [compiled, create, Trie.overlay, ruleSet, bind, Except.bind, pure, Except.pure,
      Trie.freeze]
  · rw [outcome_convert, compose_freeze]

theorem exists_plain (first : ComposerRules.standard.scriptTrie .hiragana = .ok hiragana)
    (second : ComposerRules.standard.scriptTrie .katakana = .ok katakana) :
    ∃ composer, plain false = .ok composer ∧
      ∀ text, (composer.convert text none).outcome = .ok (compose hiragana katakana text) := by
  unfold plain
  exact exists_create first second

end Composer
end Honji
