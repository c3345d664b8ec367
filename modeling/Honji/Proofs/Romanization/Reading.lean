import Honji.Proofs.Romanization.Morae
import Honji.Romanization.Converter

/-!
How a method reads a text in either script rule by rule. A rule is read on its own unless the
character behind it leads on to another rule.
-/

namespace Honji

theorem Trie.flatMap_tokenize_rule {trie : Trie Text} {write : Match Text → Text}
    {known : List Rule} (caseSensitive : trie.caseInsensitive = false)
    (holds : trie.root.Holds known)
    (unplaced : ∀ piece start, write { piece with start := start } = write piece)
    (text token : Text) {later : Text} (filled : text ≠ [])
    (listed : (Path.ofText text, token) ∈ known)
    (alone : ∀ character ∈ later.head?, Path.ofText (text ++ [character]) ∉ known.map Prod.fst) :
    (trie.tokenize (text ++ later)).flatMap write =
      write ⟨token, 0, text, .terminal⟩ ++ (trie.tokenize later).flatMap write := by
  have there := holds.entryAt?_of_mem (by simpa using filled) listed
  rw [Node.entryAt?, ← reach?_eq_find? caseSensitive, Option.map_eq_some_iff] at there
  obtain ⟨node, reached, entry⟩ := there
  have halts : trie.Halts node later := by
    intro character front
    have absent := (holds.entryAt?_eq_none_iff (by simp)).2 (alone character front)
    rw [step?_eq_none_iff reached, reach?_eq_find? caseSensitive]
    exact Node.entryAt?_eq_none_iff.1 absent
  rw [flatMap_tokenize_append unplaced filled reached halts, kindAt, entry]
  rfl

namespace RomanizationRules
variable {rules : RomanizationRules}

namespace WellFormed

theorem noKatakana_of_mem_scriptRules (wellFormed : rules.WellFormed) {script : Script}
    {rule : Rule} (member : rule ∈ rules.scriptRules script) :
    ∀ symbol ∈ rule.1, Kana.noKatakana symbol = true := by
  have listed : rule ∈ rules.doubledRules ∨ rule ∈ rules.longRules := by
    cases script with
    | hiragana => exact .inl member
    | katakana => exact List.mem_append.1 member
  cases listed with
  | inl doubled => exact wellFormed.noKatakana_of_mem doubled
  | inr long =>
      obtain ⟨short, known, -, rfl⟩ := mem_longRules.1 long
      intro symbol inside
      cases List.mem_append.1 inside with
      | inl inside => exact wellFormed.noKatakana_of_mem known symbol inside
      | inr sign =>
          rw [List.mem_singleton.1 sign]
          decide

theorem mem_ruleList_write (wellFormed : rules.WellFormed) (script : Script) {symbol : Symbol}
    {path : Path} {token : Text} (kana : Kana.inHiragana symbol = true)
    (plain : ∀ step ∈ path, Kana.noKatakana step = true) :
    ((symbol :: path).map script.write, token) ∈ rules.ruleList ↔
      (symbol :: path, token) ∈ rules.scriptRules script := by
  have notMark : ((symbol :: path).map script.write, token) ∉ rules.punctuationRules := by
    intro member
    obtain ⟨entry, listed, same⟩ := List.mem_map.1 member
    obtain ⟨mark, -⟩ := Prod.mk.inj same
    obtain ⟨noHiragana, noKatakana⟩ := wellFormed.marks entry.1 (List.mem_map.2 ⟨_, listed, rfl⟩)
    rw [List.map_cons, List.cons.injEq] at mark
    cases script <;> cases symbol <;>
      simp_all [Kana.inHiragana, Kana.noHiragana, Kana.noKatakana, Kana.toKatakana,
        Kana.isKatakanaLetter_katakanaOf]
  have inScript : ((symbol :: path).map script.write, token) ∈ rules.ruleList ↔
      ((symbol :: path).map script.write, token) ∈
        (rules.scriptRules script).map script.writeRule := by
    rw [ruleList, List.mem_append, List.mem_append, or_iff_left notMark]
    cases script with
    | hiragana =>
        rw [Script.map_writeRule_hiragana]
        apply or_iff_left
        intro member
        obtain ⟨rule, listed, same⟩ := List.mem_map.1 member
        obtain ⟨first, rest, whole, letters, -⟩ := wellFormed.head_scriptRules listed
        simp only [Script.writeRule, whole, List.map_cons, Prod.mk.injEq, List.cons.injEq] at same
        exact Kana.toKatakana_ne kana first same.1.1
    | katakana =>
        apply or_iff_right
        intro member
        obtain ⟨first, rest, whole, letters, -⟩ := wellFormed.head_scriptRules member
        obtain ⟨same, -⟩ := List.cons.inj whole
        exact Kana.toKatakana_ne letters symbol same
  rw [inScript, List.mem_map]
  constructor
  · rintro ⟨rule, member, same⟩
    obtain ⟨paths, rfl⟩ := Prod.mk.inj same
    have whole : ∀ step ∈ symbol :: path, Kana.noKatakana step = true := by
      simpa [Kana.noKatakana_of_inHiragana kana] using plain
    rw [← (script.map_write_inj (wellFormed.noKatakana_of_mem_scriptRules member) whole).1 paths]
    exact member
  · exact fun member => ⟨_, member, rfl⟩

end WellFormed
end RomanizationRules
end Honji
