import Honji.Proofs.Kana
import Honji.Proofs.Trie.Holds
import Honji.Romanization.Stages
import Mathlib.Data.List.Nodup
import Mathlib.Tactic.MkIffOfInductiveProp

/-!
The rules of a romanization method in one list. The tables name the rules for hiragana; the rules
for katakana are the same ones shifted, and those for long vowels. Tables that are well formed
never name two rules for one path.
-/

namespace Honji

def Script.writeRule (script : Script) (rule : Rule) : Rule :=
  (rule.1.map script.write, rule.2)

@[simp] theorem Script.writeRule_hiragana (rule : Rule) :
    Script.hiragana.writeRule rule = rule := by
  simp [writeRule]

@[simp] theorem Script.map_writeRule_hiragana (rules : List Rule) :
    rules.map Script.hiragana.writeRule = rules :=
  (List.map_congr_left fun rule _ => writeRule_hiragana rule).trans (List.map_id rules)

def LongVowel.lengthen (way : LongVowel) (token : Text) : Text :=
  match way with
  | .doubled => token ++ token.getLast?.toList
  | .hyphenated => token ++ ['-']
  | .macron =>
      token.dropLast ++ token.getLast?.toList.flatMap fun last => Text.composed [last, macronMark]

theorem LongVowel.apply_eq_lengthen (way : LongVowel) {token : Text} (filled : token ≠ []) :
    way.apply token = .ok (way.lengthen token) := by
  obtain ⟨last, ends⟩ := Option.ne_none_iff_exists'.1 (mt List.getLast?_eq_none_iff.1 filled)
  cases way <;> simp [apply, lengthen, ends]

theorem Table.mem_entries_of_get? {κ ν : Type} [DecidableEq κ] {table : Table κ ν} {key : κ}
    {value : ν} (found : table.get? key = some value) : (key, value) ∈ table.entries := by
  obtain ⟨entry, first, rfl⟩ := Option.map_eq_some_iff.1 found
  have same : entry.1 = key := by simpa using List.find?_some first
  exact same ▸ List.mem_of_find?_eq_some first

namespace RomanizationRules
variable (rules : RomanizationRules)

def syllable (kana : Text) : Text :=
  (rules.syllabary.get? kana).getD []

def syllableRules : List Rule :=
  rules.syllabary.entries.map fun entry => ([entry.1], entry.2)

def contractionsOf (entry : Text × List Text) : List Rule :=
  (glides.zip entry.2).map fun pair =>
    ([entry.1, pair.1], (rules.syllable entry.1).take 1 ++ pair.2)

def contractionRules : List Rule :=
  rules.contractions.entries.flatMap rules.contractionsOf

def nasalRules : List Rule :=
  rules.nasalFollowers.entries.map fun entry =>
    ([nasal, entry.1], (rules.syllable nasal).take 1 ++ Char.ofNat 0x27 :: entry.2)

def plainRules : List Rule :=
  rules.syllableRules ++ rules.contractionRules ++ rules.nasalRules

def doubles (path : Path) : Bool :=
  path.head?.all (!rules.geminationExclusions.contains ·)

def doublingRules : List Rule :=
  ([smallTsu], []) :: (rules.plainRules.filter fun rule => rules.doubles rule.1).map fun rule =>
    (smallTsu :: rule.1, rules.doubled rule.2)

def doubledRules : List Rule :=
  rules.plainRules ++ rules.doublingRules

def prolongs (rule : Rule) : Bool :=
  !rule.2.isEmpty && !rule.1.head?.any ([nasal, smallTsu].contains ·)

def longRules : List Rule :=
  (rules.doubledRules.filter prolongs).map fun rule =>
    (rule.1 ++ [prolongedSound], rules.longVowel.lengthen rule.2)

def punctuationRules : List Rule :=
  rules.punctuation.entries.map fun entry => ([entry.1], entry.2)

def scriptRules : Script → List Rule
  | .hiragana => rules.doubledRules
  | .katakana => rules.doubledRules ++ rules.longRules

def ruleList : List Rule :=
  rules.scriptRules .hiragana ++ (rules.scriptRules .katakana).map Script.katakana.writeRule ++
    rules.punctuationRules

@[mk_iff]
structure WellFormed : Prop where
  hiragana : ∀ rule ∈ rules.plainRules, rule.1.all Kana.inHiragana = true
  distinct : (rules.plainRules.map Prod.fst).Nodup
  contracted : ∀ entry ∈ rules.contractions.entries,
    rules.syllable entry.1 ≠ [] ∧ entry.2.length = glideCount
  nasalKnown : rules.syllable nasal ≠ []
  smallTsuFree : [smallTsu] ∉ rules.plainRules.map Prod.fst
  smallTsuExcluded : smallTsu ∈ rules.geminationExclusions
  excluded : ∀ kana ∈ rules.geminationExclusions, Kana.inHiragana kana = true
  marks : ∀ mark ∈ rules.punctuation.keys,
    Kana.noHiragana mark = true ∧ Kana.noKatakana mark = true

instance : Decidable rules.WellFormed :=
  decidable_of_iff' _ rules.wellFormed_iff

variable {rules}

theorem mem_syllableRules {kana : Text} (known : rules.syllable kana ≠ []) :
    ([kana], rules.syllable kana) ∈ rules.syllableRules := by
  unfold syllable at *
  cases found : rules.syllabary.get? kana with
  | none => simp [found] at known
  | some token => exact List.mem_map.2 ⟨_, Table.mem_entries_of_get? found, rfl⟩

theorem mem_plainRules_of_entry {entry : Text × Text} (listed : entry ∈ rules.syllabary.entries) :
    ([entry.1], entry.2) ∈ rules.plainRules :=
  List.mem_append_left _ (List.mem_append_left _ (List.mem_map.2 ⟨entry, listed, rfl⟩))

theorem plain_subset_doubled : rules.plainRules ⊆ rules.doubledRules :=
  fun _ => List.mem_append_left _

theorem plainRules_ne_nil {rule : Rule} (member : rule ∈ rules.plainRules) : rule.1 ≠ [] := by
  simp only [plainRules, syllableRules, contractionRules, contractionsOf, nasalRules,
    List.mem_append, List.mem_map, List.mem_flatMap] at member
  rcases member with (⟨entry, -, rfl⟩ | ⟨entry, -, pair, -, rfl⟩) | ⟨entry, -, rfl⟩ <;> simp

theorem mem_doublingRules {rule : Rule} : rule ∈ rules.doublingRules ↔
    rule = ([smallTsu], []) ∨ ∃ plain ∈ rules.plainRules, rules.doubles plain.1 = true ∧
      rule = (smallTsu :: plain.1, rules.doubled plain.2) := by
  simp only [doublingRules, List.mem_cons, List.mem_map, List.mem_filter, and_assoc, eq_comm]

theorem doubledRules_ne_nil {rule : Rule} (member : rule ∈ rules.doubledRules) : rule.1 ≠ [] := by
  cases List.mem_append.1 member with
  | inl member => exact plainRules_ne_nil member
  | inr member => rcases mem_doublingRules.1 member with rfl | ⟨plain, -, -, rfl⟩ <;> simp

theorem mem_longRules {rule : Rule} : rule ∈ rules.longRules ↔
    ∃ short ∈ rules.doubledRules, prolongs short = true ∧
      rule = (short.1 ++ [prolongedSound], rules.longVowel.lengthen short.2) := by
  simp only [longRules, List.mem_map, List.mem_filter, and_assoc, eq_comm]

namespace WellFormed

theorem inHiragana_of_mem (wellFormed : rules.WellFormed) {rule : Rule}
    (member : rule ∈ rules.doubledRules) : ∀ symbol ∈ rule.1, Kana.inHiragana symbol = true := by
  have plain {rule : Rule} (member : rule ∈ rules.plainRules) :
      ∀ symbol ∈ rule.1, Kana.inHiragana symbol = true :=
    List.all_eq_true.1 (wellFormed.hiragana rule member)
  have tsu : Kana.inHiragana smallTsu = true := wellFormed.excluded _ wellFormed.smallTsuExcluded
  cases List.mem_append.1 member with
  | inl member => exact plain member
  | inr member =>
      rcases mem_doublingRules.1 member with rfl | ⟨rule, listed, -, rfl⟩
      · simpa using tsu
      · simpa [tsu] using plain listed

theorem letters_of_mem (wellFormed : rules.WellFormed) {text token : Text}
    (listed : (Path.ofText text, token) ∈ rules.doubledRules) :
    ∀ character ∈ text, Kana.isHiraganaLetter character = true := by
  intro character member
  have letter := wellFormed.inHiragana_of_mem listed [character]
    (List.mem_map.2 ⟨character, member, rfl⟩)
  simpa [Kana.inHiragana] using letter

theorem noKatakana_of_mem (wellFormed : rules.WellFormed) {rule : Rule}
    (member : rule ∈ rules.doubledRules) : ∀ symbol ∈ rule.1, Kana.noKatakana symbol = true :=
  fun symbol inside =>
    Kana.noKatakana_of_inHiragana (wellFormed.inHiragana_of_mem member symbol inside)

theorem mem_paths_write (wellFormed : rules.WellFormed) (script : Script) {known : List Rule}
    (within : known ⊆ rules.doubledRules) {path : Path}
    (plain : ∀ symbol ∈ path, Kana.noKatakana symbol = true) :
    path.map script.write ∈ (known.map script.writeRule).map Prod.fst ↔
      path ∈ known.map Prod.fst := by
  simp only [List.map_map, List.mem_map, Function.comp_apply, Script.writeRule]
  constructor
  · rintro ⟨rule, member, same⟩
    exact ⟨rule, member, (script.map_write_inj (wellFormed.noKatakana_of_mem (within member))
      plain).1 same⟩
  · rintro ⟨rule, member, rfl⟩
    exact ⟨rule, member, rfl⟩

theorem nodup_paths_write (wellFormed : rules.WellFormed) (script : Script) :
    ((rules.plainRules.map script.writeRule).map Prod.fst).Nodup := by
  have paths : (rules.plainRules.map script.writeRule).map Prod.fst =
      (rules.plainRules.map Prod.fst).map (List.map script.write) := by
    simp [Script.writeRule, Function.comp_def]
  rw [paths]
  refine List.Nodup.map_on ?_ wellFormed.distinct
  intro first member second also same
  obtain ⟨rule, listed, rfl⟩ := List.mem_map.1 member
  obtain ⟨other, alsoListed, rfl⟩ := List.mem_map.1 also
  exact (script.map_write_inj
    (wellFormed.noKatakana_of_mem (List.mem_append_left _ listed))
    (wellFormed.noKatakana_of_mem (List.mem_append_left _ alsoListed))).1 same

end WellFormed
end RomanizationRules
end Honji
