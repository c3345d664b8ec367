import Honji.Proofs.Composer.Typing
import Honji.Proofs.Romanization.Morae

/-!
What the rules of a method write can be typed: the letters of each mora lead the composing tries to
the end of a branch, where the mora stands, and only the nasal needs a look at what comes next.
-/

namespace Honji

def Script.all : List Script :=
  [.hiragana, .katakana]

theorem Script.mem_all (script : Script) : script ∈ all := by
  cases script <;> decide

def Method.lostKana : Method → Text
  | .kunrei => "ぢづを".toList
  | .nihon => []
  | .hepburn | .modifiedHepburn | .wapuro => "ぢづ".toList

namespace LongVowel

def vowels : Text := "aiueo".toList

def longVowels : Text := "āīūēō".toList

def withMacron (token : Text) : Text :=
  token.dropLast ++ token.getLast?.toList.map fun last =>
    ((vowels.zip longVowels).lookup last).getD last

theorem composed_macron : ∀ pair ∈ vowels.zip longVowels,
    Text.composed [pair.1, macronMark] = [pair.2] := by
  decide +kernel

theorem lengthen_macron {token : Text} {last : Char} (ends : token.getLast? = some last)
    (vowel : last ∈ vowels) : LongVowel.macron.lengthen token = withMacron token := by
  have pairs : vowels.all (fun vowel => ((vowels.zip longVowels).lookup vowel).any fun long =>
      (vowels.zip longVowels).contains (vowel, long)) = true := by
    decide
  obtain ⟨long, found, listed⟩ :=
    (Option.any_eq_true _ _).1 (List.all_eq_true.1 pairs last vowel)
  have composed := composed_macron _ (List.contains_iff_mem.1 listed)
  simp only [lengthen, withMacron, ends, Option.toList_some, List.flatMap_singleton,
    List.map_singleton, found, Option.getD_some, composed]

end LongVowel

def ideographicSpace : Text := "\u3000".toList

namespace RomanizationRules

def survives (lost : Text) (path : Path) : Bool :=
  path.joined.all (!lost.contains ·) && path.head? != some nasal && path != [smallTsu] &&
    !smallKana.contains path.joined &&
    !(path.head? == some smallTsu && path.tail.head?.any nasalRow.contains)

def follows (rules : RomanizationRules) (path : Path) : Bool :=
  path.head?.any rules.nasalFollowers.keys.contains

end RomanizationRules

def Trie.partsNasal (trie : Trie Text) (word : Text) : Bool :=
  (trie.reach? trie.root ('n' :: word.take 1)).isNone

namespace Composer
variable (rules : RomanizationRules) (lost : Text) (hiragana katakana : Trie Text)

@[mk_iff]
structure TypesBack (path : Path) (word kana : Text) (trie : Trie Text) : Prop where
  typed : Text.isWord word = true
  ends : trie.endsOn word kana = true
  parts : rules.follows path = true ∨ trie.partsNasal word = true

instance (path : Path) (word kana : Text) (trie : Trie Text) :
    Decidable (TypesBack rules path word kana trie) :=
  decidable_of_iff' _ (typesBack_iff ..)

structure Typable : Prop where
  single : ∀ rule ∈ rules.doubledRules, ∀ symbol ∈ rule.1, symbol.length = 1
  words : ∀ script ∈ Script.all, ∀ rule ∈ rules.doubledRules,
    RomanizationRules.survives lost rule.1 = true →
      TypesBack rules rule.1 rule.2 (script.write rule.1.joined)
        (trieOf hiragana katakana script)
  contracted : ∀ kana ∈ rules.contractions.keys,
    kana ∉ rules.nasalFollowers.keys ∧ kana ∉ RomanizationRules.glides ∧
      kana ≠ RomanizationRules.nasal
  followers : ∀ entry ∈ rules.nasalFollowers.entries,
    entry ∈ rules.syllabary.entries ∧ RomanizationRules.survives lost [entry.1] = true
  nasal : rules.syllable RomanizationRules.nasal = ['n']
  excluded : RomanizationRules.nasal ∈ rules.geminationExclusions

structure Keyboard : Prop where
  ignores : hiragana.caseInsensitive = true
  nasal : ∀ script ∈ Script.all, ((trieOf hiragana katakana script).reach?
      (trieOf hiragana katakana script).root ['n']).any
        (·.entry.token == script.write RomanizationRules.nasal) = true ∧
    (trieOf hiragana katakana script).endsOn ['n', '\''] (script.write RomanizationRules.nasal) =
      true ∧
    (trieOf hiragana katakana script).partsNasal ['n'] = true
  marks : ∀ entry ∈ punctuationMarks.entries, entry.1 ≠ ideographicSpace →
    entry.1.length = 1 ∧ entry.2 ≠ [] ∧ Text.upper entry.2 = entry.2 ∧
      Text.isUpper entry.2 = false ∧ hiragana.endsOn entry.2 entry.1 = true ∧
      ∀ script ∈ Script.all, (trieOf hiragana katakana script).partsNasal entry.2 = true

def LongTypable : Prop :=
  ∀ rule ∈ rules.doubledRules, RomanizationRules.survives lost rule.1 = true →
    RomanizationRules.prolongs rule = true →
      rule.2.getLast?.any LongVowel.vowels.contains = true ∧
        TypesBack rules rule.1 (LongVowel.withMacron rule.2)
          (Kana.toKatakana rule.1.joined ++ RomanizationRules.prolongedSound) katakana

instance : Decidable (LongTypable rules lost katakana) :=
  inferInstanceAs (Decidable (∀ rule ∈ rules.doubledRules, _))

end Composer

open Composer RomanizationRules

def Composer.Supports (hiragana katakana : Trie Text) : Prop :=
  Keyboard hiragana katakana ∧
    (∀ method ∈ [Method.hepburn, .kunrei, .nihon],
      Typable (ofMethod method) method.lostKana hiragana katakana) ∧
    LongTypable (ofMethod .modifiedHepburn) (Method.lostKana .modifiedHepburn) katakana

namespace Composer

@[mk_iff]
structure Keys (script : Script) (trie : Trie Text) : Prop where
  ignores : trie.caseInsensitive = true
  nasal : (trie.reach? trie.root ['n']).any
      (·.entry.token == script.write RomanizationRules.nasal) = true ∧
    trie.endsOn ['n', '\''] (script.write RomanizationRules.nasal) = true ∧
    trie.partsNasal ['n'] = true
  marks : ∀ entry ∈ punctuationMarks.entries, entry.1 ≠ ideographicSpace →
    trie.endsOn entry.2 entry.1 = true ∧ trie.partsNasal entry.2 = true

instance (script : Script) (trie : Trie Text) : Decidable (Keys script trie) :=
  decidable_of_iff' _ (keys_iff ..)

def WordsBack (rules : RomanizationRules) (lost : Text) (script : Script) (trie : Trie Text) :
    Prop :=
  ∀ rule ∈ rules.doubledRules, RomanizationRules.survives lost rule.1 = true →
    TypesBack rules rule.1 rule.2 (script.write rule.1.joined) trie

instance (rules : RomanizationRules) (lost : Text) (script : Script) (trie : Trie Text) :
    Decidable (WordsBack rules lost script trie) :=
  inferInstanceAs (Decidable (∀ rule ∈ rules.doubledRules, _))

variable {hiragana katakana : Trie Text}

theorem Keyboard.of_keys (first : Keys .hiragana hiragana) (second : Keys .katakana katakana) :
    Keyboard hiragana katakana where
  ignores := first.ignores
  nasal := fun script _ => by
    cases script with
    | hiragana => exact first.nasal
    | katakana => exact second.nasal
  marks := fun entry listed visible => by
    have plain : ∀ entry ∈ punctuationMarks.entries,
        entry.1.length = 1 ∧ entry.2 ≠ [] ∧ Text.upper entry.2 = entry.2 ∧
          Text.isUpper entry.2 = false := by
      decide +kernel
    obtain ⟨single, typed, upper, small⟩ := plain entry listed
    obtain ⟨ends, parts⟩ := first.marks entry listed visible
    refine ⟨single, typed, upper, small, ends, fun script _ => ?_⟩
    cases script with
    | hiragana => exact parts
    | katakana => exact (second.marks entry listed visible).2

theorem Typable.of_wordsBack {method : Method} (distinct : method ∈ [.hepburn, .kunrei, .nihon])
    (first : WordsBack (ofMethod method) method.lostKana .hiragana hiragana)
    (second : WordsBack (ofMethod method) method.lostKana .katakana katakana) :
    Typable (ofMethod method) method.lostKana hiragana katakana := by
  have tables : ∀ method ∈ [Method.hepburn, .kunrei, .nihon],
      (∀ rule ∈ (ofMethod method).doubledRules, ∀ symbol ∈ rule.1, symbol.length = 1) ∧
      (∀ kana ∈ (ofMethod method).contractions.keys,
        kana ∉ (ofMethod method).nasalFollowers.keys ∧ kana ∉ glides ∧
          kana ≠ RomanizationRules.nasal) ∧
      (∀ entry ∈ (ofMethod method).nasalFollowers.entries,
        entry ∈ (ofMethod method).syllabary.entries ∧
          survives method.lostKana [entry.1] = true) ∧
      (ofMethod method).syllable RomanizationRules.nasal = ['n'] ∧
      RomanizationRules.nasal ∈ (ofMethod method).geminationExclusions := by
    decide +kernel
  obtain ⟨single, contracted, followers, nasal, excluded⟩ := tables method distinct
  refine ⟨single, fun script _ => ?_, contracted, followers, nasal, excluded⟩
  cases script with
  | hiragana => exact first
  | katakana => exact second

end Composer

theorem ComposerRules.exists_of_scriptTrie {rules : ComposerRules} {script : Script}
    {answers : Trie Text → Prop} [DecidablePred answers]
    (checked : (rules.scriptTrie script).toOption.any (answers ·) = true) :
    ∃ trie, rules.scriptTrie script = .ok trie ∧ answers trie := by
  cases built : rules.scriptTrie script with
  | error failure => simp [built, Except.toOption] at checked
  | ok trie => exact ⟨trie, rfl, by simpa [built, Except.toOption] using checked⟩

def Composer.Answers (script : Script) (trie : Trie Text) : Prop :=
  Keys script trie ∧ ∀ method ∈ [Method.hepburn, .kunrei, .nihon],
    WordsBack (ofMethod method) method.lostKana script trie

instance (script : Script) : DecidablePred (Composer.Answers script) :=
  fun _ => inferInstanceAs (Decidable (_ ∧ _))

-- Each script is evaluated by itself: one check of both tries takes half as much memory again.
theorem hiragana_answers : ∃ trie, ComposerRules.standard.scriptTrie .hiragana = .ok trie ∧
    Answers .hiragana trie :=
  ComposerRules.exists_of_scriptTrie (by decide +kernel)

theorem katakana_answers : ∃ trie, ComposerRules.standard.scriptTrie .katakana = .ok trie ∧
    Answers .katakana trie ∧
      LongTypable (ofMethod .modifiedHepburn) (Method.lostKana .modifiedHepburn) trie :=
  ComposerRules.exists_of_scriptTrie (by decide +kernel)

theorem exists_supports : ∃ hiragana katakana,
    ComposerRules.standard.scriptTrie .hiragana = .ok hiragana ∧
      ComposerRules.standard.scriptTrie .katakana = .ok katakana ∧
      Supports hiragana katakana := by
  obtain ⟨hiragana, first, ⟨firstKeys, firstWords⟩⟩ := hiragana_answers
  obtain ⟨katakana, second, ⟨secondKeys, secondWords⟩, long⟩ := katakana_answers
  exact ⟨hiragana, katakana, first, second, .of_keys firstKeys secondKeys,
    fun method distinct => .of_wordsBack distinct (firstWords method distinct)
      (secondWords method distinct), long⟩

namespace Composer.Typable
variable {hiragana katakana : Trie Text}

theorem standard {method other : Method} {syllabary : Table Text Text}
    {contractions : Table Text (List Text)} {longVowel otherVowel : LongVowel} {lost : Text}
    (typable : Typable (RomanizationRules.standard method syllabary contractions longVowel) lost
      hiragana katakana) :
    Typable (RomanizationRules.standard other syllabary contractions otherVowel) lost hiragana
      katakana where
  single := typable.single
  words := fun script member rule listed kept =>
    have back := typable.words script member rule listed kept
    ⟨back.typed, back.ends, back.parts⟩
  contracted := typable.contracted
  followers := typable.followers
  nasal := typable.nasal
  excluded := typable.excluded

end Composer.Typable

theorem Composer.Supports.typable {hiragana katakana : Trie Text}
    (supports : Supports hiragana katakana) (method : Method) :
    Typable (ofMethod method) method.lostKana hiragana katakana := by
  obtain ⟨-, methods, -⟩ := supports
  have hepburn := methods .hepburn (by simp)
  cases method with
  | hepburn => exact hepburn
  | modifiedHepburn => exact hepburn.standard
  | kunrei => exact methods .kunrei (by simp)
  | nihon => exact methods .nihon (by simp)
  | wapuro => exact hepburn.standard

end Honji
