import Honji.Proofs.Romanization.Published

/-!
The rules that a compiled romanization method holds. Tables that are well formed are compiled, and
the trie holds the rules of the list and nothing else.
-/

namespace Honji
namespace RomanizationRules
variable {rules : RomanizationRules}

theorem write_ne_prolongedSound (script : Script) {kana : Text}
    (hiragana : Kana.inHiragana kana = true) : script.write kana ≠ prolongedSound := by
  have sign : Kana.isHiraganaLetter Kana.prolongedSound = false := by decide
  simp only [Kana.inHiragana, Bool.and_eq_true, List.all_eq_true] at hiragana
  intro same
  cases script with
  | hiragana =>
      obtain rfl : kana = [Kana.prolongedSound] := same
      simp [sign] at hiragana
  | katakana =>
      obtain ⟨character, rfl, shifted⟩ :
          ∃ character, kana = [character] ∧ Kana.katakanaOf character = Kana.prolongedSound := by
        have written : kana.map Kana.katakanaOf = [Kana.prolongedSound] := same
        simpa [List.map_eq_singleton_iff] using written
      rw [Kana.katakanaOf_eq_prolongedSound.1 shifted] at hiragana
      simp [sign] at hiragana

namespace WellFormed

/-! ### The rules of a script are those of the list -/

theorem syllablesIn_eq (script : Script) :
    rules.syllablesIn script = rules.syllableRules.map script.writeRule := by
  simp [syllablesIn, syllableRules, Script.writeRule]

theorem mem_syllablesIn_of_known (script : Script) {kana : Text}
    (known : rules.syllable kana ≠ []) :
    ([script.write kana], rules.syllable kana) ∈ rules.syllablesIn script := by
  rw [syllablesIn_eq]
  exact List.mem_map.2 ⟨_, mem_syllableRules known, rfl⟩

theorem nodup_images (wellFormed : rules.WellFormed) (script : Script) :
    (rules.images script).Nodup := by
  have distinct := wellFormed.nodup_paths_write script
  rw [plainRules, List.append_assoc, List.map_append, List.map_append, ← syllablesIn_eq] at distinct
  have paths : (rules.syllablesIn script).map Prod.fst =
      (rules.images script).map fun image => [image] := by
    simp [syllablesIn, images, Table.keys]
  rw [paths] at distinct
  exact (List.nodup_map_iff List.singleton_injective).1 (List.nodup_append.1 distinct).1

theorem plainIn_eq (wellFormed : rules.WellFormed) (script : Script) :
    rules.plainIn script = rules.plainRules.map script.writeRule := by
  have token {kana : Text} (known : rules.syllable kana ≠ []) :
      rules.tokenIn script kana = rules.syllable kana :=
    tokenIn_eq (wellFormed.nodup_images script) (mem_syllablesIn_of_known script known)
  have contractions : rules.contractions.entries.flatMap (rules.contractionsIn script) =
      rules.contractionRules.map script.writeRule := by
    rw [contractionRules, List.map_flatMap]
    refine List.flatMap_congr fun entry member => ?_
    simp [contractionsIn, contractionsOf, Script.writeRule,
      token (wellFormed.contracted entry member).1]
  have nasals : rules.nasalsIn script = rules.nasalRules.map script.writeRule := by
    simp [nasalsIn, nasalRules, Script.writeRule, token wellFormed.nasalKnown]
  rw [plainIn, contractedIn, syllablesIn_eq, contractions, nasals, plainRules, List.map_append,
    List.map_append]

theorem inHiragana_of_known (wellFormed : rules.WellFormed) {kana : Text}
    (known : rules.syllable kana ≠ []) : Kana.inHiragana kana = true := by
  have listed : ([kana], rules.syllable kana) ∈ rules.plainRules :=
    List.mem_append_left _ (List.mem_append_left _ (mem_syllableRules known))
  exact wellFormed.inHiragana_of_mem (plain_subset_doubled listed) kana (by simp)

theorem nodup_map_write {keys : List Text} (script : Script) (distinct : keys.Nodup)
    (hiragana : ∀ kana ∈ keys, Kana.inHiragana kana = true) : (keys.map script.write).Nodup := by
  refine List.Nodup.map_on (fun first member second also same => ?_) distinct
  exact (script.write_inj (Kana.noKatakana_of_inHiragana (hiragana first member))
    (Kana.noKatakana_of_inHiragana (hiragana second also))).1 same

theorem contracted_entries (wellFormed : rules.WellFormed) (script : Script) :
    rules.Contracted script rules.contractions.entries where
  lengths := fun entry member => (wellFormed.contracted entry member).2
  based := fun entry member => based_iff.2 ⟨_,
    mem_syllablesIn_of_known script (wellFormed.contracted entry member).1,
    (wellFormed.contracted entry member).1⟩
  distinct := by
    have images := nodup_map_write script rules.contractions.distinct fun kana member => by
      obtain ⟨entry, listed, rfl⟩ := List.mem_map.1 member
      exact wellFormed.inHiragana_of_known (wellFormed.contracted entry listed).1
    rwa [List.map_map] at images

theorem buildable (wellFormed : rules.WellFormed) (script : Script) : rules.Buildable script := by
  have distinct := wellFormed.nodup_paths_write script
  rw [← wellFormed.plainIn_eq, plainIn] at distinct
  have contracted := wellFormed.contracted_entries script
  obtain ⟨followers, apart⟩ := (fresh_nasalsIn contracted).1 (.of_nodup distinct)
  have based : rules.Based script nasal := based_iff.2
    ⟨_, mem_syllablesIn_of_known script wellFormed.nasalKnown, wellFormed.nasalKnown⟩
  refine ⟨wellFormed.nodup_images script, contracted, ⟨based, followers, apart⟩, fun known => ?_⟩
  rw [← single_mem_plainIn, wellFormed.plainIn_eq, ← List.map_singleton,
    wellFormed.mem_paths_write script plain_subset_doubled (by decide)] at known
  exact wellFormed.smallTsuFree known

theorem excluded_write (wellFormed : rules.WellFormed) (script : Script) {kana : Text}
    (hiragana : Kana.inHiragana kana = true) :
    (rules.geminationExclusions.map script.write).contains (script.write kana) =
      rules.geminationExclusions.contains kana := by
  rw [Bool.eq_iff_iff, List.contains_iff_mem, List.contains_iff_mem, List.mem_map]
  constructor
  · rintro ⟨other, member, same⟩
    have plain := Kana.noKatakana_of_inHiragana (wellFormed.excluded other member)
    exact (script.write_inj plain (Kana.noKatakana_of_inHiragana hiragana)).1 same ▸ member
  · exact fun member => ⟨kana, member, rfl⟩

theorem doubles_write (wellFormed : rules.WellFormed) (script : Script) {rule : Rule}
    (member : rule ∈ rules.doubledRules) :
    (script.writeRule rule).1.head?.all
        (!(rules.geminationExclusions.map script.write).contains ·) =
      rules.doubles rule.1 := by
  have hiragana := wellFormed.inHiragana_of_mem member
  rw [doubles, Script.writeRule]
  cases path : rule.1 with
  | nil => rfl
  | cons symbol path =>
      rw [List.map_cons, List.head?_cons, List.head?_cons, Option.all_some, Option.all_some,
        wellFormed.excluded_write script (hiragana symbol (by simp [path]))]

theorem prolongsIn_write (wellFormed : rules.WellFormed) (script : Script) {rule : Rule}
    (member : rule ∈ rules.doubledRules) :
    prolongsIn script (rule.1.map script.write) rule.2 = prolongs rule := by
  have hiragana := wellFormed.inHiragana_of_mem member
  have nasalPlain : Kana.noKatakana nasal = true := by decide
  have tsuPlain : Kana.noKatakana smallTsu = true := by decide
  have unended : (rule.1.map script.write).getLast? ≠ some prolongedSound := by
    rw [List.getLast?_map]
    intro ended
    obtain ⟨symbol, last, same⟩ := Option.map_eq_some_iff.1 ended
    exact write_ne_prolongedSound script (hiragana symbol (List.mem_of_getLast? last)) same
  have heads : (rule.1.map script.write).head?.any
      ([script.write nasal, script.write smallTsu].contains ·) =
        rule.1.head?.any ([nasal, smallTsu].contains ·) := by
    cases path : rule.1 with
    | nil => rfl
    | cons symbol rest =>
        have plain := wellFormed.noKatakana_of_mem member symbol (by simp [path])
        rw [Bool.eq_iff_iff]
        simp [script.write_inj plain nasalPlain, script.write_inj plain tsuPlain]
  rw [prolongsIn, prolongs, heads]
  simp only [unended, false_or, Bool.decide_eq_true]

theorem doublingIn_eq (wellFormed : rules.WellFormed) (script : Script) :
    rules.doublingIn script (rules.plainRules.map script.writeRule) =
      rules.doublingRules.map script.writeRule := by
  have excluded : (rules.geminationExclusions.map script.write).contains
      (script.write smallTsu) = true := by
    rw [wellFormed.excluded_write script (wellFormed.excluded _ wellFormed.smallTsuExcluded),
      List.contains_iff_mem]
    exact wellFormed.smallTsuExcluded
  have copies : rules.copiesIn script (rules.plainRules.map script.writeRule) =
      (rules.plainRules.filter fun rule => rules.doubles rule.1).map script.writeRule := by
    rw [copiesIn, if_pos excluded, List.filter_map]
    refine congrArg (List.map _) (List.filter_congr fun rule member => ?_)
    exact wellFormed.doubles_write script (plain_subset_doubled member)
  simp [doublingIn, copies, doublingRules, Script.writeRule]

theorem doubledIn_eq (wellFormed : rules.WellFormed) (script : Script) :
    rules.doubledIn script = rules.doubledRules.map script.writeRule := by
  rw [doubledIn, wellFormed.plainIn_eq, wellFormed.doublingIn_eq, doubledRules, List.map_append]

theorem longIn_eq (wellFormed : rules.WellFormed) (script : Script) :
    rules.longIn script (rules.doubledRules.map script.writeRule) =
      rules.longRules.map script.writeRule := by
  have sign : script.write prolongedSound = prolongedSound := by
    cases script <;> decide
  have lasting : (rules.doubledRules.map script.writeRule).filter
      (fun rule => prolongsIn script rule.1 rule.2) =
        (rules.doubledRules.filter prolongs).map script.writeRule := by
    rw [List.filter_map]
    exact congrArg (List.map _) (List.filter_congr fun rule member =>
      wellFormed.prolongsIn_write script member)
  simp [longIn, lasting, longRules, Script.writeRule, sign]

theorem rulesIn_eq (wellFormed : rules.WellFormed) (script : Script) :
    rules.rulesIn script = (rules.scriptRules script).map script.writeRule := by
  cases script with
  | hiragana => exact wellFormed.doubledIn_eq .hiragana
  | katakana =>
      rw [rulesIn, wellFormed.doubledIn_eq, wellFormed.longIn_eq, scriptRules, List.map_append]

theorem scriptTrie_holds (wellFormed : rules.WellFormed) (script : Script) :
    ∃ trie, rules.scriptTrie script = .ok trie ∧
      trie.Holds ((rules.scriptRules script).map script.writeRule) := by
  rcases rules.scriptTrie_cases script with ⟨-, trie, built, holds⟩ | ⟨refused, -⟩
  · exact ⟨trie, built, wellFormed.rulesIn_eq script ▸ holds⟩
  · exact absurd (wellFormed.buildable script) refused

theorem head_scriptRules (wellFormed : rules.WellFormed) {script : Script} {rule : Rule}
    (member : rule ∈ rules.scriptRules script) :
    ∃ symbol path, rule.1 = symbol :: path ∧ Kana.inHiragana symbol = true ∧
      (rule ∈ rules.doubledRules ∨ path ≠ []) := by
  have doubled {rule : Rule} (member : rule ∈ rules.doubledRules) :
      ∃ symbol path, rule.1 = symbol :: path ∧ Kana.inHiragana symbol = true := by
    obtain ⟨symbol, path, whole⟩ := List.exists_cons_of_ne_nil (doubledRules_ne_nil member)
    exact ⟨symbol, path, whole, wellFormed.inHiragana_of_mem member symbol (by simp [whole])⟩
  have either : rule ∈ rules.doubledRules ∨ rule ∈ rules.longRules := by
    cases script with
    | hiragana => exact .inl member
    | katakana => exact List.mem_append.1 member
  cases either with
  | inl member =>
      obtain ⟨symbol, path, whole, hiragana⟩ := doubled member
      exact ⟨symbol, path, whole, hiragana, .inl member⟩
  | inr member =>
      obtain ⟨short, listed, -, rfl⟩ := mem_longRules.1 member
      obtain ⟨symbol, path, whole, hiragana⟩ := doubled listed
      exact ⟨symbol, path ++ [prolongedSound], by simp [whole], hiragana, .inr (by simp)⟩

theorem write_mark (wellFormed : rules.WellFormed) (script : Script) {mark : Text}
    (member : mark ∈ rules.punctuation.keys) : script.write mark = mark := by
  cases script with
  | hiragana => rfl
  | katakana => exact Kana.toKatakana_of_noHiragana (wellFormed.marks mark member).1

theorem marks_fresh (wellFormed : rules.WellFormed) {mark : Text}
    (member : mark ∈ rules.punctuation.keys) (path : Path) :
    mark :: path ∉ (rules.scriptRules .hiragana ++
      (rules.scriptRules .katakana).map Script.katakana.writeRule).map Prod.fst := by
  obtain ⟨foreign, alsoForeign⟩ := wellFormed.marks mark member
  intro listed
  rw [List.map_append, List.mem_append] at listed
  cases listed with
  | inl hiragana =>
      obtain ⟨rule, there, same⟩ := List.mem_map.1 hiragana
      obtain ⟨symbol, rest, whole, letters, -⟩ := wellFormed.head_scriptRules there
      obtain ⟨rfl, -⟩ := List.cons.inj (whole.symm.trans same)
      cases symbol <;> simp_all [Kana.inHiragana, Kana.noHiragana]
  | inr katakana =>
      obtain ⟨written, there, same⟩ := List.mem_map.1 katakana
      obtain ⟨rule, also, rfl⟩ := List.mem_map.1 there
      obtain ⟨symbol, rest, whole, letters, -⟩ := wellFormed.head_scriptRules also
      simp only [Script.writeRule, whole, List.map_cons, List.cons.injEq] at same
      obtain ⟨rfl, -⟩ := same
      cases symbol <;>
        simp_all [Kana.inHiragana, Kana.noKatakana, Kana.toKatakana,
          Kana.isKatakanaLetter_katakanaOf]

theorem wellMade (wellFormed : rules.WellFormed) : rules.WellMade where
  buildable := wellFormed.buildable
  marksFree := by
    intro script trie built mark member known
    obtain ⟨other, same, holds⟩ := wellFormed.scriptTrie_holds script
    obtain rfl := Except.ok.inj (built.symm.trans same)
    rw [holds.root.mem_keys_iff] at known
    refine wellFormed.marks_fresh member [] ?_
    rw [List.map_append]
    cases script with
    | hiragana => exact List.mem_append_left _ (by simpa using known)
    | katakana => exact List.mem_append_right _ known

theorem compile_holds (wellFormed : rules.WellFormed) :
    ∃ ruleSet, rules.compile = .ok ruleSet ∧ ruleSet.method = rules.method ∧
      ruleSet.upcaseKatakana = rules.upcaseKatakana ∧
      ruleSet.trie.caseInsensitive = false ∧ ruleSet.trie.root.Holds rules.ruleList := by
  rcases rules.compile_cases with ⟨-, hiragana, katakana, ruleSet, made⟩ | ⟨illMade, -⟩
  · have holds := made.root
    rw [publishedRules, wellFormed.rulesIn_eq, wellFormed.rulesIn_eq,
      Script.map_writeRule_hiragana] at holds
    exact ⟨ruleSet, made.compiled, made.method, made.upcaseKatakana, made.caseSensitive, holds⟩
  · exact absurd wellFormed.wellMade illMade

theorem standard {method other : Method} {syllabary : Table Text Text}
    {contractions : Table Text (List Text)} {longVowel otherVowel : LongVowel}
    (wellFormed : (standard method syllabary contractions longVowel).WellFormed) :
    (RomanizationRules.standard other syllabary contractions otherVowel).WellFormed :=
  ⟨wellFormed.hiragana, wellFormed.distinct, wellFormed.contracted, wellFormed.nasalKnown,
    wellFormed.smallTsuFree, wellFormed.smallTsuExcluded, wellFormed.excluded, wellFormed.marks⟩

end WellFormed

theorem ofMethod_wellFormed (method : Method) : (ofMethod method).WellFormed := by
  have hepburn : (ofMethod .hepburn).WellFormed := by decide +kernel
  cases method with
  | hepburn => exact hepburn
  | modifiedHepburn => exact hepburn.standard
  | kunrei => decide +kernel
  | nihon => decide +kernel
  | wapuro => exact hepburn.standard

end RomanizationRules
end Honji
