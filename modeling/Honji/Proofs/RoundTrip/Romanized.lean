import Honji.Composer.Stages
import Honji.Proofs.Romanization.Reading

/-!
How texts of kana are romanized in either script, what is in katakana being set in capitals: a rule
that the next character does not lead on from is written first, and so is a mark.
-/

namespace Honji
namespace Romanizer
open ComposerRules RomanizationRules

def writes : Script → Match Text → Text
  | .hiragana => Match.token
  | .katakana => capitalized

def romanize (trie : Trie Text) (script : Script) (text : Text) : Text :=
  (trie.tokenize text).flatMap (writes script)

theorem unplaced_writes (script : Script) (piece : Match Text) (start : Nat) :
    writes script { piece with start := start } = writes script piece := by
  cases script <;> rfl

theorem writes_kana (script : Script) {text : Text}
    (kana : CharacterClass.hiragana.holdsAll text = true) (token : Text) (start : Nat)
    (kind : MatchKind) :
    writes script ⟨token, start, script.write text, kind⟩ = echo script token := by
  cases script with
  | hiragana => rfl
  | katakana =>
      have shifted : CharacterClass.katakana.holdsAll (Kana.toKatakana text) = true := by
        simp only [CharacterClass.holdsAll, Bool.and_eq_true, Bool.not_eq_true',
          List.isEmpty_eq_false_iff, List.all_eq_true, Kana.toKatakana, List.mem_map, ne_eq,
          List.map_eq_nil_iff] at kana ⊢
        refine ⟨kana.1, ?_⟩
        rintro _ ⟨character, member, rfl⟩
        have letter := kana.2 character member
        simp only [CharacterClass.holds, Bool.or_eq_true, beq_iff_eq] at letter ⊢
        rcases letter with hiragana | rfl
        · have bounds := Kana.isHiraganaLetter_iff.1 hiragana
          rw [Bool.and_eq_true, decide_eq_true_iff, decide_eq_true_iff,
            Kana.toNat_katakanaOf hiragana]
          omega
        · rfl
      simp [writes, capitalized, shifted, echo]

theorem writes_mark (script : Script) {token : Text} (uncapital : token.upper = token)
    (start : Nat) (source : Text) (kind : MatchKind) :
    writes script ⟨token, start, source, kind⟩ = token := by
  cases script with
  | hiragana => rfl
  | katakana => simp [writes, capitalized, uncapital]

section
variable {rules : RomanizationRules} {trie : Trie Text} (wellFormed : rules.WellFormed)
  (caseSensitive : trie.caseInsensitive = false) (holds : trie.root.Holds rules.ruleList)
include wellFormed caseSensitive holds

omit caseSensitive holds in
theorem alone_write (script : Script) {letter : Char} {text later : Text}
    (letterKana : Kana.inHiragana [letter] = true)
    (textPlain : ∀ step ∈ Path.ofText text, Kana.noKatakana step = true)
    (plain : Kana.noKatakana later = true)
    (alone : ∀ character ∈ later.head?,
      Path.ofText (letter :: text ++ [character]) ∉ (rules.scriptRules script).map Prod.fst) :
    ∀ written ∈ (script.write later).head?,
      Path.ofText (script.write (letter :: text) ++ [written]) ∉ rules.ruleList.map Prod.fst := by
  intro written front
  cases later with
  | nil =>
      have nothing : script.write [] = [] := Script.write_eq_nil.2 rfl
      simp [nothing] at front
  | cons character later =>
      have next : script.write [character] = [written] := by
        cases script <;> simpa [Kana.toKatakana] using front
      have characterPlain : Kana.noKatakana [character] = true := by
        simp_all [Kana.noKatakana]
      rw [← next, ← Script.write_append, ← Script.map_write_ofText]
      intro member
      obtain ⟨⟨path, other⟩, there, same⟩ := List.mem_map.1 member
      obtain rfl : path = _ := same
      have steps : ∀ step ∈ Path.ofText (text ++ [character]), Kana.noKatakana step = true := by
        intro step inside
        rw [Path.ofText_append, List.mem_append] at inside
        cases inside with
        | inl inside => exact textPlain step inside
        | inr last => exact List.mem_singleton.1 last ▸ characterPlain
      have known := (wellFormed.mem_ruleList_write script letterKana steps).1 there
      exact alone character rfl (List.mem_map.2 ⟨_, known, rfl⟩)

theorem romanize_rule (script : Script) {letter : Char} {text token later : Text}
    (listed : (Path.ofText (letter :: text), token) ∈ rules.scriptRules script)
    (hiragana : Kana.isHiraganaLetter letter = true)
    (kana : text.all CharacterClass.hiragana.holds = true)
    (plain : Kana.noKatakana later = true)
    (alone : ∀ character ∈ later.head?,
      Path.ofText (letter :: text ++ [character]) ∉ (rules.scriptRules script).map Prod.fst) :
    romanize trie script (script.write (letter :: text ++ later)) =
      echo script token ++ romanize trie script (script.write later) := by
  have letterKana : Kana.inHiragana [letter] = true := by simp [Kana.inHiragana, hiragana]
  have textPlain : ∀ step ∈ Path.ofText text, Kana.noKatakana step = true := by
    intro step member
    obtain ⟨character, inside, rfl⟩ := List.mem_map.1 member
    have letter := List.all_eq_true.1 kana character inside
    simp only [CharacterClass.holds, Bool.or_eq_true, beq_iff_eq] at letter
    rcases letter with letter | rfl
    · exact Kana.noKatakana_of_inHiragana (by simp [Kana.inHiragana, letter])
    · decide
  have whole : CharacterClass.hiragana.holdsAll (letter :: text) = true := by
    simpa [CharacterClass.holdsAll, CharacterClass.holds, hiragana] using kana
  have known : (Path.ofText (script.write (letter :: text)), token) ∈ rules.ruleList := by
    rw [← Script.map_write_ofText]
    exact (wellFormed.mem_ruleList_write script letterKana textPlain).2 listed
  have first := trie.flatMap_tokenize_rule caseSensitive holds (unplaced_writes script)
    (script.write (letter :: text)) token (by simp) known
    (alone_write wellFormed script letterKana textPlain plain alone)
  rw [Script.write_append, romanize, first, writes_kana script whole]
  rfl

theorem romanize_mark (script : Script) {entry : Text × Text}
    (listed : entry ∈ rules.punctuation.entries) (single : entry.1.length = 1)
    (uncapital : Text.upper entry.2 = entry.2) (later : Text) :
    romanize trie script (script.write (entry.1 ++ later)) =
      entry.2 ++ romanize trie script (script.write later) := by
  have mark : entry.1 ∈ rules.punctuation.keys := List.mem_map.2 ⟨entry, listed, rfl⟩
  have unshifted := wellFormed.write_mark script mark
  have path : Path.ofText entry.1 = [entry.1] := Path.ofText_eq_singleton single
  rw [Script.write_append, unshifted, romanize, trie.flatMap_tokenize_rule caseSensitive holds
    (unplaced_writes script) entry.1 entry.2, writes_mark script uncapital]
  · rfl
  · rintro empty
    simp [empty] at single
  · rw [path]
    exact List.mem_append_right _ (List.mem_map.2 ⟨entry, listed, rfl⟩)
  · intro character _ member
    rw [Path.ofText_append, path, ruleList, List.map_append, List.mem_append] at member
    cases member with
    | inl kana => exact wellFormed.marks_fresh mark _ kana
    | inr other =>
        obtain ⟨rule, known, same⟩ := List.mem_map.1 other
        obtain ⟨entry, -, rfl⟩ := List.mem_map.1 known
        simp [Path.ofText] at same

end
end Romanizer
end Honji
