import Honji.Proofs.Composer.Filled
import Honji.Proofs.Composer.Mirrored
import Honji.Proofs.Composer.ScriptFacades
import Honji.Proofs.Trie.FiniteMap

/-!
Consonants typed twice, text by text. Typing the first consonant of a text twice puts the sign of
doubling before what the text is composed to. Only the older spelling breaks this: its kana are
laid over the finished trie, and the copies that hang there already keep the newer ones.
-/

namespace Honji
open Build

/-! ### Ends of branches -/

namespace Trie
variable {trie built : Trie Text} {path : Path}

structure Bare (trie : Trie Text) (path : Path) : Prop where
  ignores : trie.caseInsensitive = true
  last : ∀ symbol, trie.root.entryAt? (path ++ [symbol]) = none

structure Tip (trie : Trie Text) (path : Path) : Prop where
  there : trie.root.entryAt? path ≠ none
  last : ∀ symbol, trie.root.entryAt? (path ++ [symbol]) = none

theorem bare_empty (path : Path) : (empty true []).Bare path where
  ignores := rfl
  last := fun symbol => by
    cases path <;> simp [empty, Node.entryAt?_cons]

theorem Bare.insert (bare : trie.Bare path) {letters token : Text}
    (last : path <+: Path.lowered letters → Path.lowered letters = path)
    (inserted : trie.insert (Path.ofText letters) token = .ok built) : built.Bare path := by
  have written : (Path.ofText letters).map trie.normalize = Path.lowered letters :=
    map_normalize bare.ignores _
  obtain ⟨filled, -, rfl⟩ := insert_eq_ok.1 inserted
  refine ⟨bare.ignores, fun symbol => ?_⟩
  have beyond : ¬ path ++ [symbol] <+: Path.lowered letters := by
    intro ahead
    rw [last ((List.prefix_append _ _).trans ahead)] at ahead
    have longer := ahead.length_le
    simp only [List.length_append, List.length_singleton] at longer
    omega
  have other : path ++ [symbol] ≠ Path.lowered letters :=
    fun same => beyond (same ▸ List.prefix_rfl)
  rw [Node.entryAt?_insert _ _ _ (by simpa using filled), written, if_neg other, if_neg beyond,
    bare.last]
  rfl

theorem Tip.attach (tip : trie.Tip path) {above : Path} {symbol : Symbol} {child : Node Text}
    (other : above ≠ path) (attached : trie.attach above symbol child = .ok built) :
    built.Tip path where
  there := by
    obtain ⟨entry, stands⟩ := Option.ne_none_iff_exists'.1 tip.there
    simp [entryAt?_kept_of_attach attached stands]
  last := fun next => by
    rcases entryAt?_of_attach attached (path ++ [next]) with same | ⟨ahead, -, -⟩
    · exact same.trans (tip.last next)
    · rcases List.prefix_concat_iff.1 ahead with whole | before
      · exact absurd (List.append_inj' whole rfl).1 other
      · have there := entryAt?_of_prefix before tip.there
        exact absurd (fresh_of_attach attached) there

end Trie

namespace ComposerRules
variable {rules : ComposerRules} {script : Script} {path : Path}

theorem bare_addEchoes : Keeps (Trie.Bare · path) (addEchoes script) := by
  refine Ends.change fun trie built bare echoed => ?_
  split at echoed <;> cases echoed
  refine ⟨bare.ignores, fun symbol => ?_⟩
  rw [Node.entryAt?_relabelBelow _ _ (by simp), bare.last]
  rfl

section
variable (apart : ∀ copy ∈ rules.doubledPaths, ¬ path <+: copy)
include apart

theorem tip_addDoubling : Keeps (Trie.Tip · path) (rules.addDoubling script) :=
  rules.keeps_doubling script fun parent letter _ copy =>
    Ends.change fun _ _ stands attached => stands.1.attach
      (fun same => apart _ copy (same ▸ List.prefix_append [parent] [letter])) attached

theorem tip_addPunctuation : Keeps (Trie.Tip · path) rules.addPunctuation := by
  refine Ends.forM (fun _ => _) [] _ fun _ mark _ =>
    Ends.change fun _ _ tip added => tip.attach (fun same => ?_) added
  refine apart _ (List.mem_append_right _ (List.mem_singleton_self _)) ?_
  exact same ▸ List.nil_prefix

end

theorem tip_scriptTrie {trie : Trie Text} (built : rules.scriptTrie script = .ok trie)
    {rule : Text × Text} (typed : rule ∈ rules.typedRules)
    (last : ∀ other ∈ rules.typedRules, Path.lowered rule.1 <+: Path.lowered other.1 →
      Path.lowered other.1 = Path.lowered rule.1)
    (apart : ∀ copy ∈ rules.doubledPaths, ¬ Path.lowered rule.1 <+: copy) :
    trie.Tip (Path.lowered rule.1) := by
  have bare : Keeps (Trie.Bare · (Path.lowered rule.1)) (rules.buildPlain script) :=
    rules.ends_plain script (fun other listed _ _ _ bare ran =>
      bare.insert (last other listed) (of_run_insertNew ran).2) bare_addEchoes
  have grown : Ends (fun trie => trie.Bare (Path.lowered rule.1) ∧
      Spelled script [] (fun _ => []) [] trie) (rules.buildPlain script)
      fun _ => (Trie.Tip · (Path.lowered rule.1)) := by
    rintro before plain _ ⟨blank, spelled⟩ ran
    have stands := (rules.ends_buildPlain script spelled ran).ruled rule typed
    exact ⟨by simp [stands], (bare blank ran).last⟩
  have prolonged : Keeps (Trie.Tip · (Path.lowered rule.1)) (rules.addLongVowels script) := by
    refine rules.keeps_longVowels script fun path mark _ _ _ node _ tip found _ added => ?_
    refine tip.attach (fun same => ?_) added
    -- the vowel that is prolonged stands below
    have absent := tip.last mark.2
    rw [← same, Node.entryAt?, found] at absent
    cases absent
  have stages : Ends (fun trie => trie.Bare (Path.lowered rule.1) ∧
      Spelled script [] (fun _ => []) [] trie) (rules.buildScript script)
      fun _ => (Trie.Tip · (Path.lowered rule.1)) :=
    (grown.bind fun _ => tip_addDoubling apart).bind fun _ =>
      prolonged.discard.bind fun _ => tip_addPunctuation apart
  exact stages ⟨Trie.bare_empty _, .empty script⟩ (build_eq_ok.1 built)

/-! ### The older spelling -/

def olderRules (rules : ComposerRules) (script : Script) (obsolete : Bool) : List (Path × Text) :=
  if obsolete then
    rules.obsoleteKana.entries.map fun rule => (Path.lowered rule.1, script.write rule.2)
  else []

theorem token_spellingTrie {obsolete : Bool} {trie spelled : Trie Text}
    (given : rules.spellingTrie script obsolete trie = .ok spelled)
    (typed : ∀ rule ∈ rules.obsoleteKana.entries,
      trie.root.entryAt? (Path.lowered rule.1) ≠ none) (filled : path ≠ []) :
    (spelled.root.entryAt? path).map Entry.token = (trie.root.entryAt? path).map fun entry =>
      (Trie.lastToken? (rules.olderRules script obsolete) path).getD entry.token := by
  cases obsolete with
  | false =>
      obtain rfl := Except.ok.inj given
      rfl
  | true =>
      obtain ⟨layer, made, given⟩ := Steps.bind_eq_ok.1 given
      obtain rfl := Except.ok.inj given
      have stands := obsoleteTrie_eq_ok script made path filled
      have known {rule : Path × Text} (listed : rule ∈ rules.olderRules script true) :
          trie.root.entryAt? rule.1 ≠ none := by
        obtain ⟨old, member, rfl⟩ := List.mem_map.1 listed
        exact typed old member
      show ((Trie.laid Resolver.ruled trie layer).root.entryAt? path).map Entry.token = _
      cases last : Trie.lastToken? (rules.olderRules script true) path with
      | some token =>
          obtain ⟨rule, listed, rfl⟩ :=
            Trie.isSome_lastToken?_iff.1 (Option.isSome_iff_exists.2 ⟨token, last⟩)
          obtain ⟨entry, there⟩ := Option.ne_none_iff_exists'.1 (known listed)
          rw [Trie.entryAt?_laid_rule filled stands last, there]
          rfl
      | none =>
          cases there : trie.root.entryAt? path with
          | some entry =>
              obtain ⟨_, -, same⟩ := Trie.entryAt?_laid_base filled stands last there
              rw [same]
              rfl
          | none =>
              have leads : ¬ (rules.olderRules script true).any (path <+: ·.1) = true := by
                simp only [List.any_eq_true, decide_eq_true_eq, not_exists, not_and]
                exact fun rule listed ahead => Trie.entryAt?_of_prefix ahead (known listed) there
              have absent : (Trie.laid Resolver.ruled trie layer).root.entryAt? path = none :=
                (Trie.entryAt?_laid_none filled stands last there).trans (if_neg leads)
              rw [absent]
              rfl

end ComposerRules

/-! ### Texts -/

namespace Path

theorem lowered_append (first second : Text) :
    lowered (first ++ second) = lowered first ++ lowered second := by
  simp [lowered, ofText]

theorem lowered_cons {letter : Char} (small : Text.lower [letter] = [letter]) (text : Text) :
    lowered (letter :: text) = [letter] :: lowered text :=
  congrArg (· :: lowered text) small

theorem lowered_ne_nil {text : Text} (filled : text ≠ []) : lowered text ≠ [] := by
  simpa [lowered] using filled

end Path

namespace Trie
variable {trie : Trie Text} {typed later : Text} {entry : Entry Text}

structure Consumes (trie : Trie Text) (typed later : Text) (entry : Entry Text) : Prop where
  stands : trie.root.entryAt? (Path.lowered typed) = some entry
  last : ∀ next ∈ later.head?, trie.root.entryAt? (Path.lowered (typed ++ [next])) = none

theorem Tip.consumes (tip : trie.Tip (Path.lowered typed)) (later : Text) :
    ∃ entry, trie.Consumes typed later entry := by
  obtain ⟨entry, stands⟩ := Option.ne_none_iff_exists'.1 tip.there
  refine ⟨entry, stands, fun next _ => ?_⟩
  rw [Path.lowered_append]
  exact tip.last (Text.lower [next])

theorem Consumes.respelled {spelled : Trie Text} {change : Path → Text → Text}
    (consumes : trie.Consumes typed later entry) (filled : typed ≠ [])
    (tokens : ∀ path, path ≠ [] → (spelled.root.entryAt? path).map Entry.token =
      (trie.root.entryAt? path).map fun entry => change path entry.token) :
    ∃ other, spelled.Consumes typed later other ∧
      other.token = change (Path.lowered typed) entry.token := by
  have here := tokens _ (Path.lowered_ne_nil filled)
  rw [consumes.stands] at here
  obtain ⟨other, stands, token⟩ := Option.map_eq_some_iff.1 here
  refine ⟨other, ⟨stands, fun next comes => ?_⟩, token⟩
  have longer := List.append_ne_nil_of_left_ne_nil filled [next]
  have beyond := tokens _ (Path.lowered_ne_nil longer)
  rwa [consumes.last next comes, Option.map_none, Option.map_eq_none_iff] at beyond

section
variable (ignores : trie.caseInsensitive = true)
include ignores

theorem reach?_map_entry (text : Text) :
    (trie.reach? trie.root text).map Node.entry = trie.root.entryAt? (Path.lowered text) := by
  rw [← find?_ofText, find?_map_entry, map_normalize ignores]
  rfl

theorem consumes_iff : trie.Consumes typed later entry ↔ ∃ node,
    trie.reach? trie.root typed = some node ∧ node.entry = entry ∧ trie.Halts node later := by
  have halts {node : Node Text} (reached : trie.reach? trie.root typed = some node) :
      trie.Halts node later ↔
        ∀ next ∈ later.head?, trie.root.entryAt? (Path.lowered (typed ++ [next])) = none := by
    refine forall₂_congr fun next _ => ?_
    rw [step?_eq_none_iff reached, ← reach?_map_entry ignores, Option.map_eq_none_iff]
  constructor
  · rintro ⟨stands, last⟩
    rw [← reach?_map_entry ignores] at stands
    obtain ⟨node, reached, same⟩ := Option.map_eq_some_iff.1 stands
    exact ⟨node, reached, same, (halts reached).2 last⟩
  · rintro ⟨node, reached, rfl, stops⟩
    refine ⟨?_, (halts reached).1 stops⟩
    rw [← reach?_map_entry ignores, reached]
    rfl

theorem exists_consumes {first : Char} (rest : Text)
    (known : trie.root.entryAt? (Path.lowered [first]) ≠ none) : ∃ taken later entry,
      rest = taken ++ later ∧ trie.Consumes (first :: taken) later entry := by
  have leads : trie.step? trie.root [first] ≠ none := by
    rw [← reach?_map_entry ignores, reach?_cons] at known
    rintro absent
    simp [absent] at known
  obtain ⟨taken, later, node, whole, reached, halts⟩ := exists_reach rest leads
  exact ⟨taken, later, node.entry, whole, (consumes_iff ignores).2 ⟨node, reached, rfl, halts⟩⟩

end
end Trie

namespace Composer
variable {hiragana katakana : Trie Text}

theorem compose_small (alike : hiragana.Alike katakana)
    (ignores : hiragana.caseInsensitive = true) {typed later : Text} {entry : Entry Text}
    (small : typed.any (Text.inSpans Text.CaseTable.smalls) = true)
    (consumes : hiragana.Consumes typed later entry) :
    compose hiragana katakana (typed ++ later) =
      entry.token ++ compose hiragana katakana later := by
  have script : scriptOf typed = .hiragana := by
    have capital : typed.isUpper = false := by
      obtain ⟨letter, member, lower⟩ := List.any_eq_true.1 small
      refine Bool.and_eq_false_imp.2 fun _ => List.all_eq_false.2 ⟨letter, member, ?_⟩
      simp [lower]
    simp [scriptOf, capital]
  have filled : typed ≠ [] := by
    rintro rfl
    cases small
  obtain ⟨node, reached, rfl, halts⟩ := (Trie.consumes_iff ignores).1 consumes
  refine compose_append alike filled ?_ ?_
  · rw [script]
    exact reached
  · rw [script]
    exact halts

end Composer

namespace ComposerRules
variable {rules : ComposerRules} {script : Script}

theorem Doubled.consumes {trie : Trie Text} (doubled : Doubled rules script trie.root)
    {consonant : Char} (doubles : [consonant] ∈ rules.geminationConsonants)
    (small : Text.lower [consonant] = [consonant]) {taken later : Text} {entry : Entry Text}
    (apart : ∀ next ∈ (taken ++ later).head?, ¬ rules.Besides [consonant] (Text.lower [next]))
    (consumes : trie.Consumes (consonant :: taken) later entry) :
    trie.Consumes (consonant :: consonant :: taken) later (rules.signed script entry) := by
  have copied (front : Text) (ahead : front <+: taken ++ later) :
      trie.root.entryAt? (Path.lowered (consonant :: consonant :: front)) =
        (trie.root.entryAt? (Path.lowered (consonant :: front))).map (rules.signed script) := by
    rw [Path.lowered_cons small, Path.lowered_cons small]
    refine (doubled.consonants [consonant] doubles).same _ ?_
    obtain ⟨rest, whole⟩ := ahead
    cases front with
    | nil => simp [Path.ofText]
    | cons next front =>
        rintro symbol ⟨⟩
        exact apart next (whole ▸ rfl)
  refine ⟨?_, fun next comes => ?_⟩
  · rw [copied taken (List.prefix_append taken later), consumes.stands]
    rfl
  · obtain ⟨rest, rfl⟩ := List.head?_eq_some_iff.1 comes
    have absent := consumes.last next comes
    rw [List.cons_append] at absent
    have beyond := copied (taken ++ [next]) (by simp)
    rwa [absent, Option.map_none] at beyond

theorem doubled_standard {trie : Trie Text} (built : standard.scriptTrie script = .ok trie) :
    Doubled standard script trie.root := by
  have vowelless : ∀ letter ∈ standard.affricateHead :: standard.geminationConsonants,
      standard.Vowelless letter :=
    fun letter listed => ⟨by revert letter; decide +kernel, by revert letter; decide +kernel⟩
  obtain ⟨head, consonants⟩ := List.forall_mem_cons.1 vowelless
  exact (doubled_scriptTrie built (by decide) consonants head).1

theorem letter_standard {letter : Char} (doubles : [letter] ∈ standard.geminationConsonants) :
    Text.lower [letter] = [letter] ∧ Text.inSpans Text.CaseTable.smalls letter = true := by
  have letters : ∀ consonant ∈ standard.geminationConsonants,
      Text.lower consonant = consonant ∧
        consonant.all (Text.inSpans Text.CaseTable.smalls) = true := by
    decide +kernel
  simpa using letters [letter] doubles

theorem isSome_older_iff {obsolete : Bool} {consonant : Char}
    (small : Text.lower [consonant] = [consonant]) (text : Text) :
    (Trie.lastToken? (standard.olderRules .hiragana obsolete)
      (Path.lowered (consonant :: text))).isSome ↔
      obsolete = true ∧ consonant = 'w' ∧ ∃ vowel, text = [vowel] ∧
        (Text.lower [vowel] = ['i'] ∨ Text.lower [vowel] = ['e']) := by
  have paths : (standard.olderRules .hiragana true).map Prod.fst =
      [[['w'], ['i']], [['w'], ['e']]] := by
    decide +kernel
  rw [Trie.isSome_lastToken?_iff, Path.lowered_cons small]
  cases obsolete with
  | false => simp [olderRules]
  | true =>
      rw [← List.mem_map, paths]
      rcases text with _ | ⟨vowel, _ | ⟨next, text⟩⟩
      · simp [Path.lowered, Path.ofText]
      · simp [Path.lowered, Path.ofText, ← and_or_left]
      · simp [Path.lowered, Path.ofText]

theorem exists_newer {base : Trie Text} (built : standard.scriptTrie .hiragana = .ok base)
    {obsolete : Bool} {typed kana : Text}
    (older : Trie.lastToken? (standard.olderRules .hiragana obsolete) (Path.lowered typed) =
      some kana) (later : Text) :
    ∃ entry, base.Consumes typed later entry ∧ entry.token ≠ kana := by
  have ends : ∀ rule ∈ standard.olderRules .hiragana true, ∃ newer ∈ standard.typedRules,
      Path.lowered newer.1 = rule.1 ∧ newer.2 ≠ rule.2 ∧
        (∀ other ∈ standard.typedRules, rule.1 <+: Path.lowered other.1 →
          Path.lowered other.1 = rule.1) ∧
        ∀ copy ∈ standard.doubledPaths, ¬ rule.1 <+: copy := by
    decide +kernel
  have chosen : (Path.lowered typed, kana) ∈ standard.olderRules .hiragana true := by
    have listed := Trie.exists_rule_of_lastToken? older
    cases obsolete with
    | false => cases listed
    | true => exact listed
  obtain ⟨⟨letters, newer⟩, listed, path, other, last, apart⟩ := ends _ chosen
  simp only at path other last apart
  rw [← path] at last apart
  have tip := tip_scriptTrie built listed last apart
  have ruled := (spelled_scriptTrie built).ruled _ listed
  rw [path] at tip ruled
  obtain ⟨entry, consumes⟩ := tip.consumes later
  obtain rfl := Option.some.inj (consumes.stands.symm.trans ruled)
  exact ⟨_, consumes, other⟩

theorem exists_base {ruleSet : ComposerRuleSet} {obsolete : Bool}
    (compiled : standard.compile (some obsolete) = .ok ruleSet) : ∃ base,
      standard.scriptTrie .hiragana = .ok base ∧ ∀ path, path ≠ [] →
        (ruleSet.hiragana.root.entryAt? path).map Entry.token =
          (base.root.entryAt? path).map fun entry =>
            (Trie.lastToken? (standard.olderRules .hiragana obsolete) path).getD entry.token := by
  obtain ⟨base, built, compiled⟩ := Steps.bind_eq_ok.1 compiled
  obtain ⟨_, -, compiled⟩ := Steps.bind_eq_ok.1 compiled
  obtain ⟨spelled, given, compiled⟩ := Steps.bind_eq_ok.1 compiled
  obtain ⟨_, -, compiled⟩ := Steps.bind_eq_ok.1 compiled
  obtain rfl := Except.ok.inj compiled
  have chosen : standard.spellingTrie .hiragana obsolete base = .ok spelled := given
  refine ⟨base, built, fun path filled => ?_⟩
  show (spelled.root.entryAt? path).map Entry.token = _
  refine token_spellingTrie chosen (fun rule listed => ?_) filled
  obtain ⟨typed, member, same⟩ := List.mem_map.1 (voiced_standard.obsolete rule listed).1
  exact same ▸ typed_scriptTrie .hiragana built typed member

theorem exists_consumes_standard {base : Trie Text}
    (built : standard.scriptTrie .hiragana = .ok base) {consonant : Char}
    (doubles : [consonant] ∈ standard.geminationConsonants) (rest : Text) :
    ∃ taken later entry,
      rest = taken ++ later ∧ base.Consumes (consonant :: taken) later entry := by
  refine Trie.exists_consumes (spelled_scriptTrie built).caseInsensitive rest ?_
  have there := ((doubled_standard built).consonants [consonant] doubles).there
  rwa [← (letter_standard doubles).1] at there

end ComposerRules

namespace Transliteration
open Registry ComposerRules

theorem kanaOf_of_compile {ruleSet : ComposerRuleSet} {obsolete : Bool}
    (compiled : standard.compile (some obsolete) = .ok ruleSet) (text : Text) :
    kanaOf text obsolete none =
      .ok (Composer.compose ruleSet.hiragana ruleSet.katakana text) := by
  have plain : Composer.plain obsolete =
      .ok ⟨ruleSet, ruleSet.hiragana.freeze, ruleSet.katakana.freeze, false⟩ := by
    rw [Composer.plain, compiled]
    rfl
  rw [kanaOf, plain]
  refine (Composer.outcome_convert _ text).trans ?_
  simp only [Composer.compose_freeze]

/--
Letters up to which the newer spelling goes, and the same letters with the consonant typed twice.
The older spelling writes kana of its own only where it is typed once.
-/
theorem exists_kanaOf_twice (obsolete : Bool) {base : Trie Text}
    (built : standard.scriptTrie .hiragana = .ok base) {consonant : Char}
    (doubles : [consonant] ∈ standard.geminationConsonants) {taken later : Text}
    (apart : ∀ next ∈ (taken ++ later).head?,
      ¬ standard.Besides [consonant] (Text.lower [next])) {entry : Entry Text}
    (consumes : base.Consumes (consonant :: taken) later entry) :
    ∃ behind, kanaOf later obsolete none = .ok behind ∧
      kanaOf (consonant :: (taken ++ later)) obsolete none =
        .ok ((Trie.lastToken? (standard.olderRules .hiragana obsolete)
          (Path.lowered (consonant :: taken))).getD entry.token ++ behind) ∧
      kanaOf (consonant :: consonant :: (taken ++ later)) obsolete none =
        .ok ('っ' :: entry.token ++ behind) := by
  obtain ⟨ruleSet, compiled, alike, ignores⟩ := exists_standard (some obsolete)
  obtain ⟨_, again, tokens⟩ := exists_base compiled
  obtain rfl := Except.ok.inj (built.symm.trans again)
  obtain ⟨small, letter⟩ := letter_standard doubles
  have twice := (doubled_standard built).consumes doubles small apart consumes
  obtain ⟨one, first, token⟩ := consumes.respelled (by simp) tokens
  obtain ⟨two, second, signed⟩ := twice.respelled (by simp) tokens
  simp only [kanaOf_of_compile compiled]
  refine ⟨_, rfl, congrArg Except.ok ?_, congrArg Except.ok ?_⟩
  · rw [← List.cons_append, Composer.compose_small alike ignores (by simp [letter]) first, token]
  · -- no syllable of the older spelling begins with a consonant typed twice
    have newer : Trie.lastToken? (standard.olderRules .hiragana obsolete)
        (Path.lowered (consonant :: consonant :: taken)) = none := by
      by_contra respelled
      obtain ⟨-, glide, vowel, whole, vowels⟩ :=
        (isSome_older_iff small _).1 (Option.isSome_iff_ne_none.2 respelled)
      obtain rfl : consonant = vowel := (List.cons.inj whole).1
      rw [small, glide] at vowels
      simp at vowels
    rw [← List.cons_append, ← List.cons_append,
      Composer.compose_small alike ignores (by simp [letter]) second, signed, newer]
    rfl

/--
Behind the consonant that it begins with, a text is composed to the sign of doubling and what it is
composed to alone, in both spellings and after any requests, whatever follows. Only where the older
spelling has kana of its own, for "wi" and "we", the consonant typed twice gives the newer kana.
-/
theorem toKana_twice (history later : List Request) (obsolete : Bool) {consonant : Char}
    (doubles : [consonant] ∈ standard.geminationConsonants) {rest : Text}
    (apart : ∀ next ∈ rest.head?, Text.lower [next] ≠ [consonant] ∧
      (consonant = 't' → Text.lower [next] ≠ ['c'])) : ∃ once twice,
      (Steps.run (toKana (consonant :: rest) obsolete none) (after history)).1 = .ok once ∧
      (Steps.run (toKana (consonant :: consonant :: rest) obsolete none) (after later)).1 =
        .ok twice ∧
      (twice = 'っ' :: once ↔ ¬ (obsolete = true ∧ consonant = 'w' ∧
        ∃ vowel ∈ rest.head?, Text.lower [vowel] = ['i'] ∨ Text.lower [vowel] = ['e'])) := by
  simp only [run_toKana]
  obtain ⟨base, -, built, -⟩ := exists_supports
  obtain ⟨small, -⟩ := letter_standard doubles
  have beside : ∀ next ∈ rest.head?, ¬ standard.Besides [consonant] (Text.lower [next]) := by
    rintro next first (same | ⟨dental, same⟩)
    · exact (apart next first).1 same
    · exact (apart next first).2 (List.cons.inj dental).1 same
  have respelled : (Trie.lastToken? (standard.olderRules .hiragana obsolete)
      (Path.lowered (consonant :: rest.take 1))).isSome ↔ obsolete = true ∧ consonant = 'w' ∧
        ∃ vowel ∈ rest.head?, Text.lower [vowel] = ['i'] ∨ Text.lower [vowel] = ['e'] := by
    rw [isSome_older_iff small]
    refine and_congr_right fun _ => and_congr_right fun _ => exists_congr fun vowel => ?_
    cases rest <;> simp
  rw [← respelled, Bool.not_eq_true, Option.isSome_eq_false_iff, Option.isNone_iff_eq_none]
  cases older : Trie.lastToken? (standard.olderRules .hiragana obsolete)
      (Path.lowered (consonant :: rest.take 1)) with
  | none =>
      obtain ⟨taken, later, entry, rfl, consumes⟩ := exists_consumes_standard built doubles rest
      obtain ⟨behind, -, once, twice⟩ := exists_kanaOf_twice obsolete built doubles beside consumes
      have newer : Trie.lastToken? (standard.olderRules .hiragana obsolete)
          (Path.lowered (consonant :: taken)) = none := by
        by_contra known
        obtain ⟨-, -, vowel, rfl, -⟩ :=
          (isSome_older_iff small _).1 (Option.isSome_iff_ne_none.2 known)
        exact known older
      rw [newer] at once
      exact ⟨_, _, once, twice, by simp⟩
  | some kana =>
      obtain ⟨entry, consumes, other⟩ := exists_newer built older (rest.drop 1)
      have whole : rest.take 1 ++ rest.drop 1 = rest := List.take_append_drop 1 rest
      rw [← whole] at beside
      obtain ⟨behind, -, once, twice⟩ := exists_kanaOf_twice obsolete built doubles beside consumes
      rw [whole] at once twice
      rw [older] at once
      exact ⟨_, _, once, twice, by simpa using other⟩

theorem toKana_twice_kya :
    ['k'] ∈ standard.geminationConsonants ∧
      (∀ next ∈ "yâwi'n".toList.head?, Text.lower [next] ≠ ['k'] ∧
        ('k' = 't' → Text.lower [next] ≠ ['c'])) ∧
      ∃ once, (Steps.run (toKana "kyâwi'n".toList true none) (after [])).1 = .ok once ∧
        (Steps.run (toKana "kkyâwi'n".toList true none)
          (after [.toKana "sa".toList false none])).1 = .ok ('っ' :: once) := by
  have doubles : ['k'] ∈ standard.geminationConsonants := by decide
  have apart : ∀ next ∈ "yâwi'n".toList.head?, Text.lower [next] ≠ ['k'] ∧
      ('k' = 't' → Text.lower [next] ≠ ['c']) := by
    rintro next ⟨⟩
    decide +kernel
  obtain ⟨once, twice, first, second, same⟩ :=
    toKana_twice [] [.toKana "sa".toList false none] true doubles apart
  have law : twice = 'っ' :: once := same.2 (by simp)
  exact ⟨doubles, apart, once, first, law ▸ second⟩

/-- In the older spelling the syllable "wi" loses its kana where its consonant is typed twice. -/
theorem toKana_wwi :
    (Steps.run (toKana "wi".toList true none) (after [])).1 = .ok "ゐ".toList ∧
      (Steps.run (toKana "wwi".toList true none) (after [])).1 = .ok "っうぃ".toList ∧
      "っうぃ".toList ≠ 'っ' :: "ゐ".toList := by
  obtain ⟨base, -, built, -⟩ := exists_supports
  have spelled := spelled_scriptTrie built
  have consumes : base.Consumes "wi".toList [] ⟨"うぃ".toList, some true⟩ :=
    ⟨spelled.ruled ("wi".toList, "うぃ".toList) (by decide +kernel), nofun⟩
  have apart : ∀ next ∈ ("i".toList ++ []).head?,
      ¬ standard.Besides ['w'] (Text.lower [next]) := by
    rintro next ⟨⟩
    rintro (same | ⟨-, same⟩)
    · revert same
      decide +kernel
    · revert same
      decide +kernel
  obtain ⟨behind, nothing, once, twice⟩ :=
    exists_kanaOf_twice true built (by decide) apart consumes
  obtain ⟨ruleSet, compiled, -⟩ := exists_standard (some true)
  obtain rfl : [] = behind := Except.ok.inj ((kanaOf_of_compile compiled []).symm.trans nothing)
  rw [run_toKana, run_toKana]
  exact ⟨once, twice, by decide⟩

end Transliteration
end Honji
