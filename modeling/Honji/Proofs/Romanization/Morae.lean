import Honji.Proofs.Romanization.Converter
import Honji.Proofs.Trie.Piecewise

/-!
The morae of a romanization method and the rules that stand for them. A rule goes on behind another
only by a small glide, by what the nasal is set off from, by what the small tsu doubles, and in
katakana by the sign of a long vowel.
-/

namespace Honji
namespace RomanizationRules

def smallKana : List Text :=
  "ぁぃぅぇぉゃゅょ".toList.map fun letter => [letter]

def nasalRow : List Text :=
  "なにぬねの".toList.map fun letter => [letter]

inductive PlainMora (rules : RomanizationRules) : Text → Prop
  | single {kana : Text} (known : kana ∈ rules.syllabary.keys) (large : kana ∉ smallKana) :
      PlainMora rules kana
  | contracted {kana glide : Text} (known : kana ∈ rules.contractions.keys)
      (small : glide ∈ glides) : PlainMora rules (kana ++ glide)

/-- A plain mora, or one whose consonant the small tsu doubles; that of the nasal is spared. -/
inductive Mora (rules : RomanizationRules) : Text → Prop
  | plain {text : Text} (mora : rules.PlainMora text) : Mora rules text
  | doubled {text : Text} (mora : rules.PlainMora text)
      (doubles : text.take 1 ∉ rules.geminationExclusions) (spared : text.take 1 ∉ nasalRow) :
      Mora rules (smallTsu ++ text)

variable {rules : RomanizationRules}

def SingleSymbols (rules : RomanizationRules) : Prop :=
  ∀ rule ∈ rules.doubledRules, ∀ symbol ∈ rule.1, symbol.length = 1

theorem PlainMora.exists_rule {text : Text} (mora : rules.PlainMora text)
    (wellFormed : rules.WellFormed) (single : rules.SingleSymbols) :
    ∃ token, (Path.ofText text, token) ∈ rules.plainRules := by
  cases mora with
  | single known large =>
      obtain ⟨entry, listed, rfl⟩ := List.mem_map.1 known
      have member := mem_plainRules_of_entry listed
      have one := single _ (plain_subset_doubled member) entry.1 (by simp)
      exact ⟨entry.2, by rwa [Path.ofText_eq_singleton one]⟩
  | @contracted kana glide known small =>
      obtain ⟨entry, listed, rfl⟩ := List.mem_map.1 known
      obtain ⟨-, length⟩ := wellFormed.contracted entry listed
      have firsts : (glides.zip entry.2).map Prod.fst = glides :=
        List.map_fst_zip (by simp [length, glides, glideCount])
      rw [← firsts] at small
      obtain ⟨pair, zipped, rfl⟩ := List.mem_map.1 small
      have member : ([entry.1, pair.1], (rules.syllable entry.1).take 1 ++ pair.2) ∈
          rules.plainRules :=
        List.mem_append_left _ (List.mem_append_right _ (List.mem_flatMap.2
          ⟨entry, listed, List.mem_map.2 ⟨pair, zipped, rfl⟩⟩))
      have symbols := single _ (plain_subset_doubled member)
      refine ⟨(rules.syllable entry.1).take 1 ++ pair.2, ?_⟩
      rw [Path.ofText_append, Path.ofText_eq_singleton (symbols entry.1 (by simp)),
        Path.ofText_eq_singleton (symbols pair.1 (by simp))]
      exact member

theorem Mora.exists_rule {text : Text} (mora : rules.Mora text)
    (wellFormed : rules.WellFormed) (single : rules.SingleSymbols) :
    ∃ token, (Path.ofText text, token) ∈ rules.doubledRules := by
  cases mora with
  | plain mora =>
      obtain ⟨token, member⟩ := mora.exists_rule wellFormed single
      exact ⟨token, List.mem_append_left _ member⟩
  | @doubled text mora doubles spared =>
      obtain ⟨token, member⟩ := mora.exists_rule wellFormed single
      refine ⟨rules.doubled token, List.mem_append_right _ (mem_doublingRules.2 (.inr
        ⟨_, member, ?_, rfl⟩))⟩
      cases text with
      | nil => rfl
      | cons letter text => simpa [RomanizationRules.doubles, Path.ofText] using doubles

theorem last_symbol (excluded : nasal ∈ rules.geminationExclusions) {rule : Rule}
    (member : rule ∈ rules.doubledRules) {path : Path} {symbol : Symbol} (filled : path ≠ [])
    (longer : rule.1 = path ++ [symbol]) :
    symbol ∈ glides ∨ (path = [nasal] ∧ symbol ∈ rules.nasalFollowers.keys) ∨
      path = [smallTsu] := by
  have plain {rule : Rule} (member : rule ∈ rules.plainRules) {path : Path} (filled : path ≠ [])
      (longer : rule.1 = path ++ [symbol]) :
      symbol ∈ glides ∨ (path = [nasal] ∧ symbol ∈ rules.nasalFollowers.keys) := by
    obtain ⟨first, path, rfl⟩ := List.exists_cons_of_ne_nil filled
    simp only [plainRules, syllableRules, contractionRules, contractionsOf, nasalRules,
      List.mem_append, List.mem_map, List.mem_flatMap] at member
    rcases member with (⟨entry, -, rfl⟩ | ⟨entry, -, pair, zipped, rfl⟩) | ⟨entry, listed, rfl⟩
    · simp at longer
    · obtain ⟨rfl, rfl, rfl⟩ : entry.1 = first ∧ path = [] ∧ pair.1 = symbol := by
        cases path <;> simp_all
      exact .inl (List.of_mem_zip zipped).1
    · obtain ⟨rfl, rfl, rfl⟩ : nasal = first ∧ path = [] ∧ entry.1 = symbol := by
        cases path <;> simp_all
      exact .inr ⟨rfl, List.mem_map.2 ⟨entry, listed, rfl⟩⟩
  cases List.mem_append.1 member with
  | inl member => exact (plain member filled longer).imp_right .inl
  | inr member =>
      rcases mem_doublingRules.1 member with rfl | ⟨short, listed, doubles, rfl⟩
      · obtain ⟨first, path, rfl⟩ := List.exists_cons_of_ne_nil filled
        simp at longer
      · obtain ⟨first, path, rfl⟩ := List.exists_cons_of_ne_nil filled
        obtain ⟨rfl, behind⟩ := List.cons.inj longer
        by_cases empty : path = []
        · exact .inr (.inr (by rw [empty]))
        · rcases plain listed empty behind with glide | ⟨rfl, -⟩
          · exact .inl glide
          · exfalso
            rw [show short.1 = [nasal] ++ [symbol] from behind] at doubles
            simp [RomanizationRules.doubles, excluded] at doubles

@[simp] theorem prolongs_nasal (path : Path) (token : Text) :
    prolongs (nasal :: path, token) = false := by
  simp [prolongs]

theorem doubledRules_subset (script : Script) : rules.doubledRules ⊆ rules.scriptRules script := by
  cases script with
  | hiragana => exact fun _ member => member
  | katakana => exact fun _ member => List.mem_append_left _ member

theorem extension (excluded : nasal ∈ rules.geminationExclusions) {script : Script} {path : Path}
    {symbol : Symbol} (filled : path ≠ [])
    (member : path ++ [symbol] ∈ (rules.scriptRules script).map Prod.fst) :
    symbol ∈ glides ∨ (path = [nasal] ∧ symbol ∈ rules.nasalFollowers.keys) ∨
      path = [smallTsu] ∨ (script = .katakana ∧ symbol = prolongedSound ∧
        ∃ token, (path, token) ∈ rules.doubledRules ∧ prolongs (path, token) = true) := by
  obtain ⟨rule, listed, longer⟩ := List.mem_map.1 member
  have doubled (listed : rule ∈ rules.doubledRules) := last_symbol excluded listed filled longer
  cases script with
  | hiragana =>
      rcases doubled listed with glide | follower | tsu
      · exact .inl glide
      · exact .inr (.inl follower)
      · exact .inr (.inr (.inl tsu))
  | katakana =>
      cases List.mem_append.1 listed with
      | inl listed =>
          rcases doubled listed with glide | follower | tsu
          · exact .inl glide
          · exact .inr (.inl follower)
          · exact .inr (.inr (.inl tsu))
      | inr long =>
          obtain ⟨⟨shortPath, token⟩, known, lasts, rfl⟩ := mem_longRules.1 long
          obtain ⟨rfl, sign⟩ := List.append_inj' longer rfl
          exact .inr (.inr (.inr ⟨rfl, (List.cons.inj sign).1.symm, token, known, lasts⟩))

end RomanizationRules
end Honji
