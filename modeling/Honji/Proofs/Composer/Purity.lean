import Honji.Proofs.Composer.Unraised
import Honji.Proofs.Trie.Akin

/-!
What the facades write. The one for hiragana writes no katakana letter and the one for katakana no
hiragana letter, whatever the text is.
-/

namespace Honji

namespace Kana

theorem noKatakana_lower {text : Text} (plain : noKatakana text = true) :
    noKatakana (Text.lower text) = true := by
  rw [noKatakana_iff] at plain ⊢
  intro letter member
  by_contra katakana
  have bounds := isKatakanaLetter_iff.1 (eq_true_of_ne_false katakana)
  have eastern : Text.isEastern letter = true := Text.isEastern_iff.2 (by omega)
  exact katakana (plain letter (Text.mem_of_mem_lower member eastern))

end Kana

namespace Composer
variable {hiragana katakana : Trie Text}

section
variable (unraised : hiragana.Unraised) {start : Nat} {character : Char} {rest : Text}
  (small : ∀ letter ∈ character :: rest, Text.lower [letter] = [letter])
include unraised small

theorem unraised_headMatch (led : hiragana.step? hiragana.root [character] ≠ none) :
    (hiragana.headMatch start character rest).source.all Text.isUnraised = true ∧
      Kana.noKatakana (hiragana.headMatch start character rest).token = true := by
  obtain ⟨entry, there, token, -⟩ := Trie.token_headMatch start rest led
  obtain ⟨taken, source, before⟩ := hiragana.source_headMatch start character rest
  have stored : (Path.ofText (hiragana.headMatch start character rest).source).map
      hiragana.normalize = Path.ofText (hiragana.headMatch start character rest).source := by
    rw [Path.ofText, List.map_map, source]
    refine List.map_congr_left fun letter member => ?_
    have inside := List.cons_subset_cons character before.subset member
    simp [Trie.normalize, unraised.ignores, small letter inside]
  rw [stored] at there
  have stands := unraised.at_ there
  exact ⟨by simpa using stands.way, token ▸ stands.token⟩

theorem headMatch_of_small (alike : hiragana.Alike katakana) :
    headMatch hiragana katakana start character rest = hiragana.headMatch start character rest ∧
      ((hiragana.headMatch start character rest).kind = .fallback ∨
        (hiragana.headMatch start character rest).source.isUpper = false) := by
  by_cases led : hiragana.step? hiragana.root [character] = none
  · have known := alike.step? alike.outline [character]
    have ledToo : katakana.step? katakana.root [character] = none := by
      simpa [led] using known.symm
    rw [headMatch, Trie.headMatch_none led, Trie.headMatch_none ledToo, ite_self]
    exact ⟨rfl, .inl rfl⟩
  · have plain : (hiragana.headMatch start character rest).source.all Text.isUnraised = true :=
      (unraised_headMatch unraised small led).1
    have lower : (hiragana.headMatch start character rest).source.isUpper = false := by
      rw [Text.isUpper, Bool.and_eq_false_iff, List.any_eq_false]
      refine .inl fun letter member => ?_
      have here := List.all_eq_true.1 plain letter member
      rw [Text.isUnraised, Bool.and_eq_true] at here
      simpa using here.1
    rw [headMatch, if_neg (by simp [lower])]
    exact ⟨rfl, .inr lower⟩

end

section
variable (alike : hiragana.Alike katakana) (unraised : hiragana.Unraised) {text : Text}
  (small : ∀ letter ∈ text, Text.lower [letter] = [letter])
include unraised small

include alike in
theorem tokenize_of_small : tokenize hiragana katakana text = hiragana.tokenize text := by
  have same : List.Forall₂ Eq (tokenize hiragana katakana text) (hiragana.tokenize text) := by
    refine Match.forall₂_scan_of_suffix (fun start character rest ending => ?_)
      (fun _ _ same => by rw [same]) 0 0
    exact (headMatch_of_small unraised (fun letter member => small letter (ending.subset member))
      alike).1
  rwa [List.forall₂_eq_eq_eq] at same

include alike in
theorem fallback_or_not_isUpper {piece : Match Text} (cut : piece ∈ hiragana.tokenize text) :
    piece.kind = .fallback ∨ piece.source.isUpper = false := by
  obtain ⟨before, character, rest, rfl, rfl⟩ := Match.mem_scan hiragana.cuts_headMatch cut
  exact (headMatch_of_small unraised (fun letter member =>
    small letter (List.mem_append_right _ member)) alike).2

theorem noKatakana_tokenize (plain : Kana.noKatakana text = true) :
    Kana.noKatakana ((hiragana.tokenize text).flatMap Match.token) = true := by
  rw [Kana.noKatakana, List.all_flatMap, List.all_eq_true]
  intro piece cut
  obtain ⟨before, character, rest, rfl, rfl⟩ := Match.mem_scan hiragana.cuts_headMatch cut
  by_cases led : hiragana.step? hiragana.root [character] = none
  · rw [Trie.headMatch_none led]
    simpa [Kana.noKatakana, Token.ofText] using List.all_eq_true.1 plain character (by simp)
  · exact (unraised_headMatch unraised (fun letter member =>
      small letter (List.mem_append_right _ member)) led).2

end

theorem exists_plain_unraised (obsolete : Bool) : ∃ composer, plain obsolete = .ok composer ∧
    composer.hiragana.Alike composer.katakana ∧ composer.hiragana.Unraised := by
  obtain ⟨ruleSet, compiled, alike, -⟩ := ComposerRules.exists_standard (some obsolete)
  have unraised := ComposerRules.unraising_standard.unraised_compile compiled
  refine ⟨⟨ruleSet, ruleSet.hiragana.freeze, ruleSet.katakana.freeze, false⟩, ?_, alike.freeze,
    unraised.ignores, unraised.blank, unraised.stands⟩
  rw [plain, compiled]
  rfl

end Composer

namespace Transliteration
open Registry

/--
The facade for hiragana writes no katakana letter and the one for katakana no hiragana letter, in
either spelling, whether Latin letters are composed or passed on. The converter behind them cuts
what is in small letters as its trie of hiragana does, and no rule stands for what is in capitals.
-/
theorem scripts_stayApart (history : List Request) (text : Text) (passRomaji obsolete : Bool) :
    (∃ written, (Steps.run (toHiragana text passRomaji obsolete) (after history)).1 = .ok written ∧
      ∀ character ∈ written, Kana.isKatakanaLetter character = false) ∧
    (∃ written, (Steps.run (toKatakana text passRomaji obsolete) (after history)).1 = .ok written ∧
      ∀ character ∈ written, Kana.isHiraganaLetter character = false) ∧
    ∃ composer,
      (Steps.run (Registry.composer obsolete) (after history)).1.map Issued.content =
        .ok composer ∧
      composer.pieces none (Text.lower text) =
        .ok (composer.hiragana.tokenize (Text.lower text)) ∧
      ∀ piece ∈ composer.hiragana.tokenize (Text.lower text),
        piece.kind = .fallback ∨ piece.source.isUpper = false := by
  obtain ⟨composer, plain, alike, unraised⟩ := Composer.exists_plain_unraised obsolete
  have kana (text : Text) : kanaOf text obsolete none =
      .ok (Composer.compose composer.hiragana composer.katakana text) := by
    rw [kanaOf, plain]
    exact composer.outcome_convert text
  have small (text : Text) : ∀ letter ∈ Text.lower text, Text.lower [letter] = [letter] :=
    fun letter => Text.lower_of_mem_lower
  have cut (text : Text) := Composer.tokenize_of_small alike unraised (small text)
  refine ⟨?_, ?_, composer, ?_, ?_, fun piece =>
    Composer.fallback_or_not_isUpper alike unraised (small text)⟩
  · have shifted := Kana.noKatakana_toHiragana text
    rw [run_toHiragana]
    split
    · exact ⟨_, rfl, Kana.noKatakana_iff.1 shifted⟩
    · refine ⟨_, kana _, ?_⟩
      have pure := Composer.noKatakana_tokenize unraised (small _) (Kana.noKatakana_lower shifted)
      rw [Composer.compose, cut]
      exact Kana.noKatakana_iff.1 pure
  · have shifted (written : Text) :
        ∀ character ∈ Kana.toKatakana written, Kana.isHiraganaLetter character = false := by
      simp [Kana.toKatakana]
    rw [run_toKatakana]
    split
    · exact ⟨_, rfl, shifted text⟩
    · rw [kana]
      exact ⟨_, rfl, shifted _⟩
  · exact ((yields_composer obsolete _ (consistent_after history)).1).trans plain
  · have active : composer.active none = .ok (composer.hiragana, composer.katakana) := rfl
    rw [Composer.pieces_of_active active, cut]

end Transliteration
end Honji
