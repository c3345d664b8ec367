import Honji.Proofs.Romanization.Converter
import Honji.Proofs.Trie.LongestMatch

/-!
Hiragana and katakana are romanized alike. A text without katakana of its own leads through the
rules of a method as the same text in katakana does, so both are cut alike; what no rule stands for
stays in its own script.
-/

namespace Honji

namespace Kana

def isPlain (character : Char) : Bool :=
  !isKatakanaLetter character && character != prolongedSound

theorem noKatakana_singleton {character : Char} (plain : isPlain character = true) :
    noKatakana [character] = true := by
  simp_all [isPlain, noKatakana]

theorem katakanaOf_ne_prolongedSound {character : Char} (plain : isPlain character = true) :
    katakanaOf character ≠ prolongedSound := by
  rw [Ne, katakanaOf_eq_prolongedSound]
  simp_all [isPlain]

end Kana

/-! ### Tries that take both scripts alike -/

namespace Trie

structure TakesAlike (trie : Trie Text) : Prop where
  caseSensitive : trie.caseInsensitive = false
  shifted : ∀ text : Text, text ≠ [] → text.all Kana.isPlain = true →
    trie.root.entryAt? (Path.ofText (Kana.toKatakana text)) = trie.root.entryAt? (Path.ofText text)
  foreign : ∀ text : Text, text ≠ [] → text.all Kana.isPlain = true →
    ∀ entry ∈ trie.root.entryAt? (Path.ofText text), Kana.noHiragana entry.token = true

namespace TakesAlike
variable {trie : Trie Text}

theorem map_entry_reach? (alike : trie.TakesAlike) {text : Text} (filled : text ≠ [])
    (plain : text.all Kana.isPlain = true) :
    (trie.reach? trie.root (Kana.toKatakana text)).map (·.entry) =
      (trie.reach? trie.root text).map (·.entry) := by
  rw [reach?_eq_find? alike.caseSensitive, reach?_eq_find? alike.caseSensitive]
  exact alike.shifted text filled plain

theorem reach?_eq_none (alike : trie.TakesAlike) {text : Text} (filled : text ≠ [])
    (plain : text.all Kana.isPlain = true) :
    trie.reach? trie.root (Kana.toKatakana text) = none ↔ trie.reach? trie.root text = none := by
  have same := alike.map_entry_reach? filled plain
  cases there : trie.reach? trie.root (Kana.toKatakana text) <;>
    cases here : trie.reach? trie.root text <;> simp_all

theorem headMatch_toKatakana (alike : trie.TakesAlike) (start other : Nat) {character : Char}
    {rest : Text} (plain : (character :: rest).all Kana.isPlain = true) :
    (trie.headMatch other (Kana.katakanaOf character) (Kana.toKatakana rest)).source =
        Kana.toKatakana (trie.headMatch start character rest).source ∧
      (trie.headMatch other (Kana.katakanaOf character) (Kana.toKatakana rest)).token =
        Kana.toKatakana (trie.headMatch start character rest).token := by
  have single (character : Char) :
      trie.reach? trie.root [character] = trie.step? trie.root [character] := by
    simp [reach?_cons]
  by_cases known : trie.step? trie.root [character] = none
  · have onePlain : [character].all Kana.isPlain = true := by simp_all
    have unknown : trie.step? trie.root [Kana.katakanaOf character] = none := by
      rw [← single] at known ⊢
      exact (alike.reach?_eq_none (by simp) onePlain).2 known
    rw [headMatch_none known, headMatch_none unknown]
    exact ⟨rfl, rfl⟩
  · obtain ⟨taken, later, node, rfl, reached, halts⟩ := exists_reach rest known
    have takenPlain : (character :: taken).all Kana.isPlain = true := by simp_all
    have same := alike.map_entry_reach? (by simp) takenPlain
    rw [reached, Option.map_some, Option.map_eq_some_iff] at same
    obtain ⟨last, reachedToo, sameEntry⟩ := same
    have haltsToo : trie.Halts last (Kana.toKatakana later) := by
      cases later with
      | nil => exact halts_nil last
      | cons next later =>
          have nextPlain : (character :: taken ++ [next]).all Kana.isPlain = true := by simp_all
          rw [halts_cons, step?_eq_none_iff reached] at halts
          refine halts_cons.2 ((step?_eq_none_iff reachedToo _).2 ?_)
          have shifted := (alike.reach?_eq_none (by simp) nextPlain).2 halts
          rwa [Kana.toKatakana_append] at shifted
    have foreign : Kana.noHiragana node.entry.token = true := by
      apply alike.foreign _ (by simp) takenPlain node.entry
      rw [Node.entryAt?, ← reach?_eq_find? alike.caseSensitive, reached]
      rfl
    rw [Kana.toKatakana_append, headMatch_eq reached halts,
      headMatch_eq (show trie.reach? trie.root (Kana.katakanaOf character ::
        Kana.toKatakana taken) = some last from reachedToo) haltsToo]
    exact ⟨rfl, by rw [sameEntry, Kana.toKatakana_of_noHiragana foreign]⟩

theorem convert_toKatakana (alike : trie.TakesAlike) (text : Text)
    (plain : text.all Kana.isPlain = true) :
    trie.convert (Kana.toKatakana text) = Kana.toKatakana (trie.convert text) := by
  have anywhere (position other : Nat) :
      (Match.scan trie.headMatch 0 other (Kana.toKatakana text)).flatMap (·.token) =
        Kana.toKatakana ((Match.scan trie.headMatch 0 position text).flatMap (·.token)) := by
    induction position, text using trie.cuts_headMatch.induction generalizing other with
    | nil position => rfl
    | cons position character taken later start source ih =>
        obtain ⟨sameSource, sameToken⟩ :=
          alike.headMatch_toKatakana position other
            (show (character :: (taken ++ later)).all Kana.isPlain = true by simpa using plain)
        rw [source] at sameSource
        rw [Kana.toKatakana_append] at sameSource sameToken
        have laterPlain : later.all Kana.isPlain = true := by simp_all
        have rest := ih laterPlain (trie.headMatch other (Kana.katakanaOf character)
          (Kana.toKatakana taken ++ Kana.toKatakana later)).stop
        rw [Match.scan_cons start source, Kana.toKatakana_append,
          show Kana.toKatakana (character :: taken) =
            Kana.katakanaOf character :: Kana.toKatakana taken from rfl,
          Match.scan_cons (start_headMatch ..) sameSource, List.flatMap_cons, List.flatMap_cons,
          Kana.toKatakana_append, sameToken, rest]
  exact anywhere 0 0

end TakesAlike
end Trie

/-! ### The rules of a method -/

namespace RomanizationRules
variable {rules : RomanizationRules}

@[mk_iff]
structure WritesLatin (rules : RomanizationRules) : Prop where
  plain : ∀ rule ∈ rules.plainRules, Kana.noHiragana rule.2 = true
  substitute : Kana.noHiragana rules.affricateSubstitute = true
  marks : ∀ entry ∈ rules.punctuation.entries, Kana.noHiragana entry.2 = true

instance (rules : RomanizationRules) : Decidable rules.WritesLatin :=
  decidable_of_iff' _ rules.writesLatin_iff

theorem WritesLatin.doubled (latin : rules.WritesLatin) {token : Text}
    (foreign : Kana.noHiragana token = true) : Kana.noHiragana (rules.doubled token) = true := by
  have substitute := latin.substitute
  unfold RomanizationRules.doubled
  split
  · exact foreign
  · split <;> simp_all [Kana.noHiragana]

theorem WritesLatin.of_mem (latin : rules.WritesLatin) {rule : Rule}
    (member : rule ∈ rules.doubledRules ++ rules.punctuationRules) :
    Kana.noHiragana rule.2 = true := by
  cases List.mem_append.1 member with
  | inl member =>
      cases List.mem_append.1 member with
      | inl member => exact latin.plain rule member
      | inr member =>
          rcases mem_doublingRules.1 member with rfl | ⟨plain, listed, -, rfl⟩
          · rfl
          · exact latin.doubled (latin.plain plain listed)
  | inr member =>
      obtain ⟨entry, listed, rfl⟩ := List.mem_map.1 member
      exact latin.marks entry listed

namespace WellFormed

theorem mem_ruleList_of_plain (wellFormed : rules.WellFormed) {text token : Text}
    (plain : text.all Kana.isPlain = true) :
    (Path.ofText text, token) ∈ rules.ruleList ↔
      (Path.ofText text, token) ∈ rules.doubledRules ++ rules.punctuationRules := by
  have absent : (Path.ofText text, token) ∉
      (rules.scriptRules .katakana).map Script.katakana.writeRule := by
    intro member
    obtain ⟨rule, listed, same⟩ := List.mem_map.1 member
    obtain ⟨symbol, path, whole, letters, -⟩ := wellFormed.head_scriptRules listed
    have paths := congrArg Prod.fst same
    simp only [Script.writeRule, whole] at paths
    cases text with
    | nil => simp [Path.ofText] at paths
    | cons character text =>
        simp only [List.map_cons, Path.ofText, List.cons.injEq, Script.write_katakana,
          Kana.toKatakana, List.map_eq_singleton_iff] at paths
        obtain ⟨⟨kana, rfl, rfl⟩, -⟩ := paths
        simp_all [Kana.isPlain, Kana.inHiragana, Kana.isKatakanaLetter_katakanaOf]
  simp only [ruleList, scriptRules, List.mem_append] at absent ⊢
  tauto

theorem noKatakana_ofText {text : Text} (plain : text.all Kana.isPlain = true) :
    ∀ symbol ∈ Path.ofText text, Kana.noKatakana symbol = true := by
  intro symbol member
  obtain ⟨character, inside, rfl⟩ := List.mem_map.1 member
  exact Kana.noKatakana_singleton (List.all_eq_true.1 plain character inside)

theorem mem_punctuationRules_toKatakana (wellFormed : rules.WellFormed) {path : Path} {token : Text}
    (plain : ∀ symbol ∈ path, Kana.noKatakana symbol = true) :
    (path.map Kana.toKatakana, token) ∈ rules.punctuationRules ↔
      (path, token) ∈ rules.punctuationRules := by
  simp only [punctuationRules, List.mem_map, Prod.mk.injEq]
  refine exists_congr fun entry => and_congr_right fun listed => and_congr_left fun _ => ?_
  obtain ⟨noHiragana, noKatakana⟩ := wellFormed.marks entry.1 (List.mem_map.2 ⟨_, listed, rfl⟩)
  have shifted : [entry.1] = [entry.1].map Kana.toKatakana := by
    simp [Kana.toKatakana_of_noHiragana noHiragana]
  conv_lhs => rw [shifted]
  exact Kana.map_toKatakana_inj (by simpa using noKatakana) plain

theorem mem_scriptRules_toKatakana (wellFormed : rules.WellFormed) {text token : Text}
    (plain : text.all Kana.isPlain = true) :
    ((Path.ofText text).map Kana.toKatakana, token) ∈
        (rules.scriptRules .katakana).map Script.katakana.writeRule ↔
      (Path.ofText text, token) ∈ rules.doubledRules := by
  constructor
  · intro katakana
    obtain ⟨rule, listed, same⟩ := List.mem_map.1 katakana
    obtain ⟨samePath, rfl⟩ := Prod.mk.inj same
    cases List.mem_append.1 listed with
    | inl doubled =>
        have path : rule.1 = Path.ofText text :=
          (Kana.map_toKatakana_inj (wellFormed.noKatakana_of_mem doubled)
            (noKatakana_ofText plain)).1 samePath
        exact path ▸ doubled
    | inr long =>
        exfalso
        obtain ⟨short, -, -, rfl⟩ := mem_longRules.1 long
        have last : Kana.toKatakana prolongedSound ∈ (Path.ofText text).map Kana.toKatakana := by
          rw [← samePath]
          exact List.mem_map_of_mem (by simp)
        obtain ⟨symbol, inside, sign⟩ := List.mem_map.1 last
        obtain ⟨character, member, rfl⟩ := List.mem_map.1 inside
        apply Kana.katakanaOf_ne_prolongedSound (List.all_eq_true.1 plain character member)
        exact List.singleton_inj.1 sign
  · intro doubled
    exact List.mem_map.2 ⟨_, List.mem_append_left _ doubled, rfl⟩

theorem mem_ruleList_toKatakana (wellFormed : rules.WellFormed) {text token : Text}
    (filled : text ≠ []) (plain : text.all Kana.isPlain = true) :
    (Path.ofText (Kana.toKatakana text), token) ∈ rules.ruleList ↔
      (Path.ofText text, token) ∈ rules.ruleList := by
  have foreign : ((Path.ofText text).map Kana.toKatakana, token) ∉ rules.doubledRules := by
    intro hiragana
    have letters := wellFormed.inHiragana_of_mem hiragana
    obtain ⟨character, text, rfl⟩ := List.exists_cons_of_ne_nil filled
    have first := letters (Kana.toKatakana [character]) (by simp [Path.ofText])
    simp [Kana.inHiragana, Kana.toKatakana] at first
  rw [wellFormed.mem_ruleList_of_plain plain, ruleList, List.append_assoc, List.mem_append,
    List.mem_append, List.mem_append, ← Kana.map_toKatakana_ofText,
    wellFormed.mem_scriptRules_toKatakana plain,
    wellFormed.mem_punctuationRules_toKatakana (noKatakana_ofText plain)]
  exact or_iff_right foreign

theorem takesAlike (wellFormed : rules.WellFormed) (latin : rules.WritesLatin) {trie : Trie Text}
    (caseSensitive : trie.caseInsensitive = false) (holds : trie.root.Holds rules.ruleList) :
    trie.TakesAlike := by
  refine ⟨caseSensitive, fun text filled plain => ?_, fun text filled plain entry found => ?_⟩
  · apply Option.ext
    intro entry
    rw [holds _ (by simpa using filled), holds _ (by simpa using filled)]
    simp only [wellFormed.mem_ruleList_toKatakana filled plain]
  · obtain ⟨token, member, rfl⟩ := holds.exists_of_entryAt? (by simpa using filled) found
    exact latin.of_mem ((wellFormed.mem_ruleList_of_plain plain).1 member)

end WellFormed

theorem ofMethod_writesLatin (method : Method) : (ofMethod method).WritesLatin := by
  have hepburn : (ofMethod .hepburn).WritesLatin := by decide +kernel
  cases method with
  | hepburn => exact hepburn
  | modifiedHepburn => exact ⟨hepburn.plain, hepburn.substitute, hepburn.marks⟩
  | kunrei => decide +kernel
  | nihon => decide +kernel
  | wapuro => exact ⟨hepburn.plain, hepburn.substitute, hepburn.marks⟩

end RomanizationRules

namespace Transliteration
open Registry

/--
A text without katakana letters and without the sign of a long vowel is romanized alike in both
scripts, by every method and after every history of requests: what its katakana comes to is what
the text itself comes to, in katakana.
-/
theorem toRomaji_toKatakana (history later : List Request) {named : Datum} {method : Method}
    (known : Method.parse named = .ok method) {choice : Choice} (small : choice.taken = false)
    {text : Text} (plain : text.all Kana.isPlain = true) :
    ∃ written,
      (Steps.run (toRomaji text named choice none) (after history)).1 = .ok written ∧
      (Steps.run (toRomaji (Kana.toKatakana text) named choice none) (after later)).1 =
        .ok (Kana.toKatakana written) := by
  obtain ⟨romanizer, made, capitalizes, caseSensitive, holds⟩ := Romanizer.plain_holds method
  have answer (history : List Request) (text : Text) :
      (Steps.run (toRomaji text named choice none) (after history)).1 =
        .ok (romanizer.active.convert text) := by
    have tokens : romanizer.capitalizes choice = false := by rw [capitalizes, small]
    rw [run_toRomaji, romajiOf, known]
    simp only [bind, Except.bind, made, Romanizer.outcome_convert, tokens, Bool.false_eq_true,
      ↓reduceIte]
    rfl
  have alike := (RomanizationRules.ofMethod_wellFormed method).takesAlike
    (RomanizationRules.ofMethod_writesLatin method) caseSensitive holds
  exact ⟨_, answer history text, by rw [answer, alike.convert_toKatakana text plain]⟩

theorem toRomaji_toKatakana_wapuro :
    Method.parse (.text "Wapuro ".toList) = .ok .wapuro ∧ Choice.taken none = false ∧
      "しんいち・っa𛀁".toList.all Kana.isPlain = true ∧
      ∃ written,
        (Steps.run (toRomaji "しんいち・っa𛀁".toList (.text "Wapuro ".toList) none none)
          (after [])).1 = .ok written ∧
        (Steps.run (toRomaji (Kana.toKatakana "しんいち・っa𛀁".toList) (.text "Wapuro ".toList)
          none none) (after [.toKana "sa".toList false none])).1 =
          .ok (Kana.toKatakana written) :=
  have known : Method.parse (.text "Wapuro ".toList) = .ok .wapuro := by rfl
  have plain : "しんいち・っa𛀁".toList.all Kana.isPlain = true := by decide
  ⟨known, rfl, plain, toRomaji_toKatakana [] [.toKana "sa".toList false none] known rfl plain⟩

end Transliteration
end Honji
