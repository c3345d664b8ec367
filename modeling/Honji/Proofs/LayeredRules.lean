import Honji.Proofs.OwnRules
import Honji.Proofs.Trie.Layers

/-!
Rules given to a converter and rules given in a call. The call comes to what a plain converter makes
of all of them in one list, those of the call behind the others.
-/

namespace Honji

section
variable {own call : Mapping Text} {first second : List (Spelling × Text)}
  (ownPairs : own.pairs? = some first) (callPairs : call.pairs? = some second)
  (filled : ∀ pair ∈ first ++ second, pair.1.path ≠ [])
include ownPairs callPairs filled

theorem Romanizer.create_layers (ruleSet : RuleSet) (upcaseKatakana : Choice) : ∃ made plain,
    create ruleSet upcaseKatakana (some own) = .ok made ∧
      create ruleSet upcaseKatakana none = .ok plain ∧
      ∀ text choice, made.convert text choice (some call) =
        plain.convert text choice (some (.sequence (first ++ second))) := by
  obtain ⟨under, above, both, underGiven, aboveGiven, bothGiven, akin⟩ :=
    ruleSet.trie.overlay_overlay ownPairs callPairs filled
  refine ⟨⟨ruleSet, under.freeze, true, upcaseKatakana⟩,
    ⟨ruleSet, ruleSet.trie.freeze, false, upcaseKatakana⟩, ?_, rfl, fun text choice => ?_⟩
  · rw [create, underGiven]
    rfl
  · have same : above.tokenize text = both.tokenize text := by
      rw [Trie.tokenize, Trie.tokenize, akin.headMatch_eq]
    simp only [convert, pieces, Trie.pieces, aboveGiven, bothGiven]
    split
    · rfl
    · simp only [bind, Except.bind, pure, Except.pure, same]
      rfl

theorem Composer.create_layers (ruleSet : ComposerRuleSet) : ∃ made plain,
    create ruleSet (some own) = .ok made ∧ create ruleSet none = .ok plain ∧
      ∀ text, made.convert text (some call) =
        plain.convert text (some (.sequence (first ++ second))) := by
  obtain ⟨under, above, both, underGiven, aboveGiven, bothGiven, akin⟩ :=
    ruleSet.hiragana.overlay_overlay ownPairs callPairs filled
  obtain ⟨underToo, aboveToo, bothToo, underGivenToo, aboveGivenToo, bothGivenToo, akinToo⟩ :=
    ruleSet.katakana.overlay_overlay ownPairs callPairs filled
  refine ⟨⟨ruleSet, under.freeze, underToo.freeze, true⟩,
    ⟨ruleSet, ruleSet.hiragana.freeze, ruleSet.katakana.freeze, false⟩, ?_, rfl, fun text => ?_⟩
  · rw [create, underGiven, underGivenToo]
    rfl
  · have same : tokenize above aboveToo text = tokenize both bothToo text := by
      have heads : headMatch above aboveToo = headMatch both bothToo := by
        unfold headMatch
        rw [akin.headMatch_eq, akinToo.headMatch_eq]
      rw [tokenize, tokenize, heads]
    simp only [convert, pieces, aboveGiven, bothGiven, aboveGivenToo, bothGivenToo]
    split
    · rfl
    · simp only [bind, Except.bind, pure, Except.pure, same]

end

open Registry

/--
Rules for a converter and for a call: converters with the first rules make of a text under the
second ones what plain converters make of it under others, with all that they tell.
-/
structure Mapping.Layers (own call both : Mapping Text) : Prop where
  romanizer : ∀ history other method upcaseKatakana, ∃ made plain,
    (Steps.run (newRomanizer method upcaseKatakana (some own)) (after history)).1 = .ok made ∧
      (Steps.run (newRomanizer method upcaseKatakana none) (after other)).1 = .ok plain ∧
      ∀ text choice, made.convert text choice (some call) = plain.convert text choice (some both)
  composer : ∀ history other obsolete, ∃ made plain,
    (Steps.run (newComposer obsolete (some own)) (after history)).1 = .ok made ∧
      (Steps.run (newComposer obsolete none) (after other)).1 = .ok plain ∧
      ∀ text, made.convert text (some call) = plain.convert text (some both)

/-- Rules in layers come to the rules of all layers in one list, if none of their paths is empty. -/
theorem Mapping.layers {own call : Mapping Text} {first second : List (Spelling × Text)}
    (ownPairs : own.pairs? = some first) (callPairs : call.pairs? = some second)
    (filled : ∀ pair ∈ first ++ second, pair.1.path ≠ []) :
    Layers own call (.sequence (first ++ second)) where
  romanizer := fun history other method upcaseKatakana => by
    obtain ⟨ruleSet, compiled, -⟩ :=
      (RomanizationRules.ofMethod_wellFormed method).compile_holds
    simp only [run_newRomanizer, compiled]
    exact Romanizer.create_layers ownPairs callPairs filled ruleSet upcaseKatakana
  composer := fun history other obsolete => by
    obtain ⟨ruleSet, compiled, -⟩ := ComposerRules.exists_standard obsolete
    simp only [run_newComposer, ComposerRules.makeComposer, compiled]
    exact Composer.create_layers ownPairs callPairs filled ruleSet

theorem Mapping.layers_dog :
    let own : Mapping Text := .table ⟨[(.text "いぬ".toList, "dog".toList)], by decide⟩
    let call : Mapping Text :=
      .sequence [(.text "い".toList, "ee".toList), (.text "いぬき".toList, "gone".toList)]
    own.pairs? = some [(.text "いぬ".toList, "dog".toList)] ∧
      Layers own call (.sequence [(.text "いぬ".toList, "dog".toList),
        (.text "い".toList, "ee".toList), (.text "いぬき".toList, "gone".toList)]) := by
  intro own call
  have listed : own.pairs? = some [(.text "いぬ".toList, "dog".toList)] := rfl
  have called : call.pairs? =
      some [(.text "い".toList, "ee".toList), (.text "いぬき".toList, "gone".toList)] := rfl
  exact ⟨listed, layers listed called (by decide)⟩

end Honji
