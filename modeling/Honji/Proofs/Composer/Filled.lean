import Honji.Proofs.Composer.Raised
import Honji.Proofs.Composer.Spelled
import Honji.Proofs.Trie.Echoing

/-!
Composing tries that swallow nothing. A node below the root of such a trie has something to write:
the kana of the rule that ends there, or else the letters that lead to it. The letters are put in
once, after the rules, and no later stage brings a node that has nothing to write.
-/

namespace Honji
open Build

namespace Text

theorem smallForm_ne_nil (character : Char) : smallForm character ≠ [] := by
  have filled : ∀ entry ∈ CaseTable.longSmall, entry.2 ≠ [] := by decide +kernel
  unfold smallForm
  split
  · next codes found =>
    obtain ⟨before, after, whole, -⟩ := List.lookup_eq_some_iff.1 found
    simpa [ofCodes] using filled _ (whole ▸ List.mem_append_right _ (List.mem_cons_self ..))
  · simp

theorem lower_ne_nil {text : Text} (filled : text ≠ []) : lower text ≠ [] := by
  obtain ⟨character, rest, rfl⟩ := List.exists_cons_of_ne_nil filled
  rw [lower, lowerAfter]
  split
  · simp
  · simp [smallForm_ne_nil]

end Text

theorem Path.joined_ne_nil {path : Path} (filled : path ≠ []) (symbols : [] ∉ path) :
    path.joined ≠ [] := by
  obtain ⟨symbol, path, rfl⟩ := List.exists_cons_of_ne_nil filled
  have here : symbol ≠ [] := fun empty => symbols (empty ▸ List.mem_cons_self)
  simp [joined, here]

namespace Trie

structure Sounding (trie : Trie Text) : Prop where
  symbols : ∀ path entry, trie.root.entryAt? path = some entry → [] ∉ path
  rules : ∀ path entry, path ≠ [] → trie.root.entryAt? path = some entry →
    entry.terminal.taken = true → entry.token ≠ []

variable {trie built : Trie Text}

theorem sounding_empty (caseInsensitive : Bool) (placeholder : Text) :
    Sounding (.empty caseInsensitive placeholder) where
  symbols := by
    rintro (_ | ⟨symbol, path⟩) entry found
    · simp
    · cases found
  rules := by
    rintro (_ | ⟨symbol, path⟩) entry filled found
    · exact absurd rfl filled
    · cases found

theorem Sounding.insert (sounding : Sounding trie) {letters token : Text} (spoken : token ≠ [])
    (inserted : trie.insert (Path.ofText letters) token = .ok built) : Sounding built := by
  obtain ⟨filled, -, rfl⟩ := insert_eq_ok.1 inserted
  have nonempty : (Path.ofText letters).map trie.normalize ≠ [] := by simpa using filled
  have symbols : [] ∉ (Path.ofText letters).map trie.normalize := by
    intro empty
    obtain ⟨symbol, member, small⟩ := List.mem_map.1 empty
    obtain ⟨character, -, rfl⟩ := List.mem_map.1 member
    unfold normalize at small
    split at small
    · exact Text.lower_ne_nil (by simp) small
    · cases small
  refine ⟨fun query entry found => ?_, fun query entry below found ends => ?_⟩ <;>
    rw [Node.entryAt?_insert _ _ _ nonempty] at found <;> split at found
  · next last => exact last ▸ symbols
  · cases before : trie.root.entryAt? query with
    | some old => exact sounding.symbols query old before
    | none =>
        rw [before, Option.none_or] at found
        split at found
        · next leads => exact fun empty => symbols (leads.subset empty)
        · cases found
  · cases found
    exact spoken
  · cases before : trie.root.entryAt? query with
    | some old =>
        rw [before, Option.some_or] at found
        cases found
        exact sounding.rules query entry below before ends
    | none =>
        rw [before, Option.none_or] at found
        split at found <;> cases found
        cases ends

theorem Filled.attach (filled : Filled trie) {path : Path} {symbol : Symbol} {child : Node Text}
    (spoken : ∀ query entry, child.entryAt? query = some entry → entry.token ≠ [])
    (attached : trie.attach path symbol child = .ok built) : Filled built := by
  intro query entry below found
  rcases entryAt?_of_attach attached query with same | ⟨-, -, under⟩
  · exact filled query entry below (same ▸ found)
  · exact spoken _ entry (under ▸ found)

theorem Filled.add (filled : Filled trie) {path : Path} {symbol : Symbol} {token : Text}
    (spoken : token ≠ []) (added : trie.add path symbol token = .ok built) : Filled built := by
  refine filled.attach (fun query entry found => ?_) added
  cases query with
  | nil =>
      cases found
      exact spoken
  | cons symbol query => simp [Node.entryAt?_cons] at found

end Trie

namespace ComposerRules

structure Voiced (rules : ComposerRules) : Prop where
  vowels : ∀ rule ∈ rules.vowels.entries, rule.2 ≠ []
  irregular : ∀ row ∈ rules.irregularRows.entries, ∀ rule ∈ row.2.entries, rule.2 ≠ []
  small : ∀ rule ∈ rules.smallKana.entries, rule.2 ≠ []
  nasal : rules.nasalKana ≠ []
  contractions : ∀ rule ∈ rules.contractionConsonants.entries, rule.2 ≠ []
  sokuon : rules.sokuon ≠ []
  punctuation : ∀ mark ∈ rules.punctuation.entries, mark.2 ≠ []
  obsolete : ∀ rule ∈ rules.obsoleteKana.entries,
    rule.1 ∈ rules.typedRules.map Prod.fst ∧ rule.2 ≠ []

variable {rules : ComposerRules} (script : Script)

theorem keeps_addRule {letters kana : Text} (spoken : kana ≠ []) :
    Keeps Trie.Sounding (addRule script letters kana) :=
  fun _ _ _ sounding ran =>
    sounding.insert (mt Script.write_eq_nil.1 spoken) (of_run_insertNew ran).2

theorem Voiced.spoken (voiced : rules.Voiced) : ∀ rule ∈ rules.typedRules, rule.2 ≠ [] := by
  simp only [typedRules, syllableRules, rowRules, beginningRules, contractionRules,
    List.forall_mem_append, List.forall_mem_flatMap, List.forall_mem_map, List.forall_mem_singleton]
  have contracted : ∀ base ∈ rules.contractionConsonants.entries,
      ∀ glide ∈ rules.contractionGlides.entries, base.2 ++ glide.2 ≠ [] := fun base listed _ _ =>
    List.append_ne_nil_of_left_ne_nil (voiced.contractions base listed) _
  exact ⟨⟨voiced.vowels, fun _ _ _ _ => List.cons_ne_nil _ _, voiced.irregular,
    fun _ _ => voiced.small, voiced.nasal, voiced.nasal⟩, contracted⟩

theorem ends_addEchoes : Ends Trie.Sounding (addEchoes script) fun _ => Trie.Filled := by
  refine Ends.change fun trie built sounding echoed => ?_
  split at echoed <;> cases echoed
  intro path entry below found
  rw [Node.entryAt?_relabelBelow _ _ below] at found
  obtain ⟨old, there, rfl⟩ := Option.map_eq_some_iff.1 found
  have letters := Path.joined_ne_nil below (sounding.symbols path old there)
  by_cases waiting : waits old = true
  · simp only [if_pos waiting]
    cases script with
    | hiragana => exact letters
    | katakana => exact mt Text.upper_eq_nil.1 letters
  · simp only [if_neg waiting]
    intro silent
    have ends : old.terminal.taken = true := by simpa [waits, silent] using waiting
    exact sounding.rules path old below there ends silent

theorem obsoleteTrie_eq_ok {layer : Trie Text} (made : rules.obsoleteTrie script = .ok layer) :
    ∀ path, path ≠ [] → layer.root.entryAt? path = Trie.entryAfter? Token.blank
      (rules.obsoleteKana.entries.map fun rule => (Path.lowered rule.1, script.write rule.2))
        none path := by
  have written : (rules.obsoleteKana.mapValues script.write).entries.map (fun rule =>
      (Path.ofText rule.1, rule.2)) =
        rules.obsoleteKana.entries.map fun rule => (Path.ofText rule.1, script.write rule.2) := by
    simp [Table.mapValues]
  rw [obsoleteTrie, written] at made
  rcases Trie.insertAll_cases (Trie.empty true Token.blank) rfl
    (rules.obsoleteKana.entries.map fun rule => (Path.ofText rule.1, script.write rule.2)) with
    ⟨-, fails⟩ | ⟨filled, -⟩
  · cases fails.symm.trans made
  · obtain ⟨root, built, stands⟩ := Trie.ofRules_eq true fun rule member empty =>
      filled (empty ▸ List.mem_map_of_mem member)
    obtain rfl := Except.ok.inj (built.symm.trans made)
    intro path below
    rw [stands path below, Trie.normalized, List.map_map]
    rfl

theorem typed_scriptTrie {trie : Trie Text} (built : rules.scriptTrie script = .ok trie) :
    ∀ rule ∈ rules.typedRules, trie.root.entryAt? (Path.lowered rule.1) ≠ none := by
  intro rule member
  rw [(spelled_scriptTrie built).ruled rule member]
  exact nofun

namespace Voiced
variable (voiced : rules.Voiced)
include voiced

theorem keeps_addDoubled (parent symbol : Symbol) (source : Node Text) :
    Keeps Trie.Filled (rules.addDoubled script parent symbol source) := by
  refine Ends.change fun trie built filled attached => filled.attach (fun query entry found => ?_)
    attached
  rw [Node.entryAt?_mapTokens] at found
  obtain ⟨old, -, rfl⟩ := Option.map_eq_some_iff.1 found
  have sign : script.write rules.sokuon ≠ [] := mt Script.write_eq_nil.1 voiced.sokuon
  simp [sign]

theorem keeps_addPunctuation : Keeps Trie.Filled rules.addPunctuation :=
  Ends.forM (fun _ => _) [] _ fun _ mark member =>
    Ends.change fun _ _ filled added => filled.add (voiced.punctuation mark member) added

theorem ends_buildScript : Ends Trie.Sounding (rules.buildScript script) fun _ => Trie.Filled := by
  have plain : Ends Trie.Sounding (rules.buildPlain script) fun _ => Trie.Filled :=
    rules.ends_plain script
      (fun rule listed => keeps_addRule script (voiced.spoken rule listed)) (ends_addEchoes script)
  have doubled : Ends Trie.Sounding (rules.buildDoubled script) fun _ => Trie.Filled :=
    plain.bind fun _ => rules.keeps_doubling script fun _ _ _ _ _ _ _ stands ran =>
      voiced.keeps_addDoubled script _ _ _ stands.1 ran
  have longVowels : Keeps Trie.Filled (rules.addLongVowels script) := by
    refine rules.keeps_longVowels script fun path mark _ _ _ node _ filled found _ added => ?_
    -- the vowel that is prolonged has something to write
    have spoken : node.entry.token ≠ [] :=
      filled (path ++ [mark.2]) node.entry (by simp) (by rw [Node.entryAt?, found]; rfl)
    exact filled.add (by simp [spoken]) added
  exact doubled.bind fun _ => longVowels.discard.bind fun _ => voiced.keeps_addPunctuation

theorem filled_scriptTrie {trie : Trie Text} (built : rules.scriptTrie script = .ok trie) :
    trie.Filled :=
  voiced.ends_buildScript script (Trie.sounding_empty true []) (build_eq_ok.1 built)

theorem filled_spellingTrie {obsolete : Bool} {trie spelled : Trie Text} (filled : trie.Filled)
    (typed : ∀ rule ∈ rules.typedRules, trie.root.entryAt? (Path.lowered rule.1) ≠ none)
    (given : rules.spellingTrie script obsolete trie = .ok spelled) : spelled.Filled := by
  cases obsolete with
  | false =>
      obtain rfl := Except.ok.inj given
      exact filled
  | true =>
      obtain ⟨layer, made, given⟩ := Steps.bind_eq_ok.1 given
      obtain rfl := Except.ok.inj given
      have stands := obsoleteTrie_eq_ok script made
      have echoing : Trie.Echoing trie (Trie.laid Resolver.ruled trie layer) := by
        refine filled.echoing.laid (fun rule member => ?_) stands
        obtain ⟨old, listed, rfl⟩ := List.mem_map.1 member
        exact mt Script.write_eq_nil.1 (voiced.obsolete old listed).2
      intro path entry below found silent
      obtain ⟨-, absent⟩ := (echoing.silent path entry below found).1 silent
      have brought : layer.root.entryAt? path = some entry := by
        have laid := Trie.entryAt?_laid Resolver.plain_ruled trie layer below
        rw [absent] at laid
        exact laid.symm.trans found
      rw [stands path below] at brought
      obtain ⟨_, member, ahead⟩ := Trie.exists_rule_of_entryAfter? brought
      obtain ⟨old, listed, rfl⟩ := List.mem_map.1 member
      obtain ⟨rule, spelled, same⟩ := List.mem_map.1 (voiced.obsolete old listed).1
      exact Trie.entryAt?_of_prefix ahead (same ▸ typed rule spelled) absent

theorem filled_compile {obsolete : Choice} {ruleSet : ComposerRuleSet}
    (compiled : rules.compile obsolete = .ok ruleSet) :
    ruleSet.hiragana.Filled ∧ ruleSet.katakana.Filled := by
  obtain ⟨hiragana, built, compiled⟩ := Steps.bind_eq_ok.1 compiled
  obtain ⟨katakana, builtToo, compiled⟩ := Steps.bind_eq_ok.1 compiled
  obtain ⟨spelled, given, compiled⟩ := Steps.bind_eq_ok.1 compiled
  obtain ⟨other, givenToo, compiled⟩ := Steps.bind_eq_ok.1 compiled
  obtain rfl := Except.ok.inj compiled
  have filled : spelled.Filled := voiced.filled_spellingTrie .hiragana
    (voiced.filled_scriptTrie .hiragana built) (typed_scriptTrie .hiragana built) given
  have filledToo : other.Filled := voiced.filled_spellingTrie .katakana
    (voiced.filled_scriptTrie .katakana builtToo) (typed_scriptTrie .katakana builtToo) givenToo
  exact ⟨filled, filledToo⟩

end Voiced

theorem voiced_standard : standard.Voiced where
  vowels := by decide +kernel
  irregular := by decide +kernel
  small := by decide +kernel
  nasal := by decide
  contractions := by decide +kernel
  sokuon := by decide
  punctuation := by decide +kernel
  obsolete := by decide +kernel

end ComposerRules
end Honji
