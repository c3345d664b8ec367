import Honji.Proofs.Romanization.ScriptTries

/-!
Compiling a romanization method from any tables. The rules of the two scripts never contradict each
other, so laying one over the other loses none of them, and the tables are refused exactly if one of
the scripts or a punctuation mark is in the way.
-/

namespace Honji

namespace RomanizationRules
open Build
variable {rules : RomanizationRules} {script : Script}

/-! ### The two scripts agree -/

theorem written_of_mem_plainIn {rule : Rule} (member : rule ∈ rules.plainIn script) :
    ∀ symbol ∈ rule.1, ∃ kana, script.write kana = symbol := by
  rcases mem_plainIn member with ⟨entry, -, rfl⟩ | ⟨kana, glide, -, path⟩ | ⟨kana, path⟩
  · simp
  · simp [path]
  · simp [path]

theorem written_of_mem_doubledIn {rule : Rule} (member : rule ∈ rules.doubledIn script) :
    ∀ symbol ∈ rule.1, ∃ kana, script.write kana = symbol := by
  rcases List.mem_append.1 member with plain | doubling
  · exact written_of_mem_plainIn plain
  rcases List.mem_cons.1 doubling with rfl | copied
  · simp
  obtain ⟨copy, listed, rfl⟩ := List.mem_map.1 copied
  have tsu : ∃ kana, script.write kana = script.write smallTsu := ⟨_, rfl⟩
  refine List.forall_mem_cons.2 ⟨tsu, ?_⟩
  rcases mem_copiesIn listed with plain | path | ⟨plain, known, path⟩
  · exact written_of_mem_plainIn plain
  · simp [path]
  · rw [path]
    exact List.forall_mem_cons.2 ⟨tsu, written_of_mem_plainIn known⟩

theorem noHiragana_of_mem_rulesIn {rule : Rule} (member : rule ∈ rules.rulesIn .katakana) :
    ∀ symbol ∈ rule.1, Kana.noHiragana symbol = true := by
  have short {rule : Rule} (member : rule ∈ rules.doubledIn .katakana) :
      ∀ symbol ∈ rule.1, Kana.noHiragana symbol = true := by
    intro symbol inside
    obtain ⟨kana, rfl⟩ := written_of_mem_doubledIn member symbol inside
    exact Kana.noHiragana_toKatakana kana
  rcases List.mem_append.1 member with doubled | long
  · exact short doubled
  · obtain ⟨rule, lasting, rfl⟩ := List.mem_map.1 long
    have sign : ∀ symbol ∈ [prolongedSound], Kana.noHiragana symbol = true := by decide
    exact List.forall_mem_append.2 ⟨short (List.mem_of_mem_filter lasting), sign⟩

theorem mem_rulesIn_hiragana {rule : Rule} (member : rule ∈ rules.rulesIn .hiragana) :
    (∃ entry ∈ rules.syllabary.entries, rule = ([entry.1], entry.2)) ∨
      ∃ symbol ∈ rule.1, Kana.noHiragana symbol = false := by
  rcases List.mem_append.1 member with plain | doubling
  · rcases mem_plainIn plain with syllable | ⟨kana, glide, small, path⟩ | ⟨kana, path⟩
    · exact .inl syllable
    · have letters : ∀ glide ∈ glides, Kana.noHiragana glide = false := by decide
      exact .inr ⟨glide, by simp [path], letters glide small⟩
    · exact .inr ⟨nasal, by simp [path], by decide⟩
  · exact .inr ⟨smallTsu, List.mem_of_mem_head? (head_doublingIn doubling), by decide⟩

theorem single_mem_rulesIn_katakana {kana token : Text}
    (member : ([kana], token) ∈ rules.rulesIn .katakana) :
    ([kana], token) ∈ rules.syllablesIn .katakana ∨ kana = Script.katakana.write smallTsu := by
  rcases List.mem_append.1 member with doubled | long
  · rcases List.mem_append.1 doubled with plain | doubling
    · rcases mem_plainIn plain with ⟨entry, listed, same⟩ | ⟨_, _, -, path⟩ | ⟨_, path⟩
      · exact .inl (same ▸ List.mem_map.2 ⟨entry, listed, rfl⟩)
      · simp at path
      · simp at path
    · exact .inr (Option.some.inj (head_doublingIn doubling))
  · obtain ⟨short, lasting, same⟩ := List.mem_map.1 long
    obtain ⟨symbol, rest, path⟩ :=
      List.exists_cons_of_ne_nil (doubledIn_ne_nil short (List.mem_of_mem_filter lasting))
    simp [path] at same

theorem rulesIn_agree (buildable : rules.Buildable .katakana) {path : Path} {token word : Text}
    (listed : (path, token) ∈ rules.rulesIn .hiragana)
    (also : (path, word) ∈ rules.rulesIn .katakana) : token = word := by
  have foreign := noHiragana_of_mem_rulesIn also
  rcases mem_rulesIn_hiragana listed with ⟨entry, known, same⟩ | ⟨symbol, inside, letter⟩
  · obtain ⟨rfl, rfl⟩ := Prod.mk.inj same
    -- a syllable without hiragana letters is its own image, so both scripts took it from one entry
    have image : Script.katakana.write entry.1 = entry.1 :=
      Kana.toKatakana_of_noHiragana (foreign entry.1 (by simp))
    have here : ([entry.1], entry.2) ∈ rules.syllablesIn .katakana :=
      List.mem_map.2 ⟨entry, known, by rw [image]⟩
    rcases single_mem_rulesIn_katakana also with there | tsu
    · rw [← image] at here there
      exact (tokenIn_eq buildable.distinct here).symm.trans (tokenIn_eq buildable.distinct there)
    · refine absurd ?_ buildable.smallTsuFree
      rw [← tsu, ← image]
      exact List.mem_map.2 ⟨entry.1, List.mem_map_of_mem known, rfl⟩
  · exact absurd (foreign symbol inside) (by simp [letter])

/-! ### Both scripts and the punctuation -/

/-- What tables must be like to be compiled: no mark may stand where a script has a rule already. -/
structure WellMade (rules : RomanizationRules) : Prop where
  buildable : ∀ script, rules.Buildable script
  marksFree : ∀ script trie, rules.scriptTrie script = .ok trie →
    ∀ mark ∈ rules.punctuation.keys, mark ∉ trie.root.keys

def publishedRules (rules : RomanizationRules) : List Rule :=
  rules.rulesIn .hiragana ++ rules.rulesIn .katakana ++ rules.punctuationRules

theorem holds_union {hiragana katakana : Trie Text} (buildable : rules.Buildable .katakana)
    (here : hiragana.Holds (rules.rulesIn .hiragana))
    (there : katakana.Holds (rules.rulesIn .katakana)) :
    (Trie.merged Resolver.later [hiragana, katakana] none).Holds
      (rules.rulesIn .hiragana ++ rules.rulesIn .katakana) := by
  have first := (Node.holds_leaf ⟨hiragana.placeholder, some false⟩).merge here.root (by simp)
  exact ⟨first.merge there.root fun path token word => rulesIn_agree buildable, rfl,
    here.caseSensitive⟩

theorem settles_punctuation (known : List Rule) :
    Settles known (∀ mark ∈ rules.punctuation.keys, [mark] ∉ known.map Prod.fst)
      rules.punctuationRules rules.addPunctuation := by
  have rounds : Settles known (Rule.Fresh known rules.punctuationRules) rules.punctuationRules
      rules.addPunctuation :=
    Settles.addEach (fun _ => []) Prod.fst Prod.snd rules.punctuation.entries (by simp)
  have paths : rules.punctuationRules.map Prod.fst =
      rules.punctuation.keys.map fun mark => [mark] := by
    simp [punctuationRules, Table.keys]
  have distinct := rules.punctuation.distinct.map List.singleton_injective
  refine rounds.congr ?_
  rw [Rule.Fresh, paths, List.forall_mem_map]
  exact and_iff_right distinct

theorem compile_eq {hiragana katakana : Trie Text}
    (first : rules.scriptTrie .hiragana = .ok hiragana)
    (second : rules.scriptTrie .katakana = .ok katakana) :
    rules.compile =
      (rules.addPunctuation.build (Trie.merged Resolver.later [hiragana, katakana] none)).map
        fun trie => ⟨rules.method, trie.freeze, rules.longVowel, rules.upcaseKatakana⟩ := by
  rw [compile, first, second]
  simp only [bind, Except.bind, Except.map]
  rfl

structure Compiled (rules : RomanizationRules) (hiragana katakana : Trie Text)
    (ruleSet : RuleSet) : Prop where
  first : rules.scriptTrie .hiragana = .ok hiragana
  second : rules.scriptTrie .katakana = .ok katakana
  compiled : rules.compile = .ok ruleSet
  hiragana : hiragana.Holds (rules.rulesIn .hiragana)
  katakana : katakana.Holds (rules.rulesIn .katakana)
  root : ruleSet.trie.root.Holds rules.publishedRules
  caseSensitive : ruleSet.trie.caseInsensitive = false
  frozen : ruleSet.trie.frozen = true
  method : ruleSet.method = rules.method
  upcaseKatakana : ruleSet.upcaseKatakana = rules.upcaseKatakana

theorem wellMade_iff {hiragana katakana : Trie Text}
    (buildable : ∀ script, rules.Buildable script)
    (first : rules.scriptTrie .hiragana = .ok hiragana)
    (here : hiragana.Holds (rules.rulesIn .hiragana))
    (second : rules.scriptTrie .katakana = .ok katakana)
    (there : katakana.Holds (rules.rulesIn .katakana)) :
    rules.WellMade ↔ ∀ mark ∈ rules.punctuation.keys,
      [mark] ∉ (rules.rulesIn .hiragana ++ rules.rulesIn .katakana).map Prod.fst := by
  have either (mark : Text) :
      [mark] ∉ (rules.rulesIn .hiragana ++ rules.rulesIn .katakana).map Prod.fst ↔
        mark ∉ hiragana.root.keys ∧ mark ∉ katakana.root.keys := by
    rw [List.map_append, List.mem_append, not_or, here.root.mem_keys_iff, there.root.mem_keys_iff]
  simp only [either]
  constructor
  · intro wellMade mark member
    exact ⟨wellMade.marksFree _ _ first mark member, wellMade.marksFree _ _ second mark member⟩
  · intro free
    refine ⟨buildable, fun script trie built mark member => ?_⟩
    cases script with
    | hiragana =>
        obtain rfl := Except.ok.inj (first.symm.trans built)
        exact (free mark member).1
    | katakana =>
        obtain rfl := Except.ok.inj (second.symm.trans built)
        exact (free mark member).2

theorem compile_cases (rules : RomanizationRules) :
    (rules.WellMade ∧ ∃ hiragana katakana ruleSet, rules.Compiled hiragana katakana ruleSet) ∨
      (¬ rules.WellMade ∧ ∃ failure, rules.compile = .error failure ∧ failure.BlamesTables) := by
  rcases rules.scriptTrie_cases .hiragana with
    ⟨firstMade, hiragana, first, here⟩ | ⟨refused, failure, fails, blames⟩
  swap
  · refine .inr ⟨fun wellMade => refused (wellMade.buildable _), failure, ?_, blames⟩
    simp [compile, fails, bind, Except.bind]
  rcases rules.scriptTrie_cases .katakana with
    ⟨secondMade, katakana, second, there⟩ | ⟨refused, failure, fails, blames⟩
  swap
  · refine .inr ⟨fun wellMade => refused (wellMade.buildable _), failure, ?_, blames⟩
    simp [compile, first, fails, bind, Except.bind]
  have buildable (script : Script) : rules.Buildable script := by
    cases script
    · exact firstMade
    · exact secondMade
  have marks := wellMade_iff buildable first here second there
  rcases (settles_punctuation _).build_cases (holds_union secondMade here there) with
    ⟨free, trie, built, holds⟩ | ⟨taken, failure, fails, blames⟩
  · have compiled := compile_eq first second
    rw [built] at compiled
    exact .inl ⟨marks.2 free, hiragana, katakana, _, first, second, compiled, here, there,
      holds.root, holds.caseSensitive, rfl, rfl, rfl⟩
  · refine .inr ⟨mt marks.1 taken, failure, ?_, blames⟩
    rw [compile_eq first second, fails]
    rfl

/--
A romanization method can be compiled exactly if its tables are well made. Tables that are not are
refused with an error about the tables, and with no other.
-/
theorem compile_settled (rules : RomanizationRules) :
    ((∃ ruleSet, rules.compile = .ok ruleSet) ↔ rules.WellMade) ∧
      ∀ failure, rules.compile = .error failure → failure.BlamesTables := by
  rcases rules.compile_cases with
    ⟨wellMade, _, _, ruleSet, made⟩ | ⟨illMade, failure, fails, blames⟩
  · exact ⟨⟨fun _ => wellMade, fun _ => ⟨ruleSet, made.compiled⟩⟩, by simp [made.compiled]⟩
  · refine ⟨⟨fun ⟨ruleSet, compiled⟩ => ?_, fun wellMade => absurd wellMade illMade⟩, ?_⟩
    · simp [fails] at compiled
    · intro other failed
      rw [fails] at failed
      obtain rfl := Except.error.inj failed
      exact blames

end RomanizationRules
end Honji
