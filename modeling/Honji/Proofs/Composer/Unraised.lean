import Honji.Proofs.Composer.ScriptFacades
import Honji.Proofs.Composer.Spelled
import Honji.Proofs.Text.SettledForms

/-!
The two scripts kept apart. No way through the composing trie of hiragana leads over a capital, and
no katakana letter is written in it. A text in small letters is therefore composed in hiragana
alone: what capitals are left in it, because they have no small form, no rule stands for.
-/

namespace Honji
open Build

namespace Text

def isUnraised (character : Char) : Bool :=
  !inSpans CaseTable.capitals character && !Kana.isKatakanaLetter character

end Text

namespace Kana

theorem noKatakana_append {first second : Text} :
    noKatakana (first ++ second) = (noKatakana first && noKatakana second) :=
  List.all_append

theorem noKatakana_of_isUnraised {text : Text} (unraised : text.all Text.isUnraised = true) :
    noKatakana text = true := by
  simp only [List.all_eq_true, Text.isUnraised, Bool.and_eq_true, noKatakana] at unraised ⊢
  exact fun character member => (unraised character member).2

end Kana

namespace Path

theorem joined_append (first second : Path) :
    joined (first ++ second) = first.joined ++ second.joined :=
  List.flatten_append

theorem joined_cons (symbol : Symbol) (path : Path) :
    joined (symbol :: path) = symbol ++ path.joined :=
  List.flatten_cons

end Path

structure UnraisedAt (path : Path) (entry : Entry Text) : Prop where
  way : path.joined.all Text.isUnraised = true
  token : Kana.noKatakana entry.token = true

namespace Trie

structure Unraised (trie : Trie Text) : Prop where
  ignores : trie.caseInsensitive = true
  blank : trie.placeholder = []
  stands : trie.root.Pointwise (fun path entry _ => UnraisedAt path entry) trie.root

namespace Unraised
variable {trie layer built : Trie Text}

theorem empty : Unraised (.empty true []) :=
  ⟨rfl, rfl, .leaf ⟨rfl, rfl⟩⟩

theorem at_ (unraised : trie.Unraised) {path : Path} {entry : Entry Text}
    (there : trie.root.entryAt? path = some entry) : UnraisedAt path entry :=
  unraised.stands.of_some there there

theorem insert (unraised : trie.Unraised) {letters token : Text}
    (small : (Path.lowered letters).joined.all Text.isUnraised = true)
    (plain : Kana.noKatakana token = true)
    (inserted : trie.insert (Path.ofText letters) token = .ok built) : built.Unraised := by
  obtain ⟨filled, -, rfl⟩ := insert_eq_ok.1 inserted
  have lowered : (Path.ofText letters).map trie.normalize = Path.lowered letters :=
    map_normalize unraised.ignores _
  refine ⟨unraised.ignores, unraised.blank, ?_⟩
  simp only [lowered, unraised.blank]
  refine unraised.stands.insert (by simpa [Path.lowered] using filled) ⟨small, plain⟩ ?_
  rintro query ⟨rest, whole⟩
  rw [← whole, Path.joined_append, List.all_append, Bool.and_eq_true] at small
  exact ⟨small.1, rfl⟩

theorem insertAll (unraised : trie.Unraised) {rules : List (Text × Text)}
    (plain : ∀ rule ∈ rules, (Path.lowered rule.1).joined.all Text.isUnraised = true ∧
      Kana.noKatakana rule.2 = true)
    (inserted : trie.insertAll (rules.map fun rule => (Path.ofText rule.1, rule.2)) = .ok built) :
    built.Unraised := by
  induction rules generalizing trie with
  | nil =>
      obtain rfl := Except.ok.inj inserted
      exact unraised
  | cons rule rules ih =>
      obtain ⟨⟨small, plain⟩, rest⟩ := List.forall_mem_cons.1 plain
      obtain ⟨next, here, inserted⟩ := Steps.bind_eq_ok.1 inserted
      exact ih (unraised.insert small plain here) rest inserted

theorem attach (unraised : trie.Unraised) {path : Path} {symbol : Symbol} {child : Node Text}
    (below : child.Pointwise (fun query entry _ => UnraisedAt (path ++ symbol :: query) entry)
      child) (attached : trie.attach path symbol child = .ok built) : built.Unraised := by
  have kept : built.caseInsensitive = trie.caseInsensitive ∧
      built.placeholder = trie.placeholder := by
    obtain ⟨-, -, rfl⟩ := attach_eq_ok.1 attached
    exact ⟨rfl, rfl⟩
  refine ⟨kept.1.trans unraised.ignores, kept.2.trans unraised.blank, fun query => ?_⟩
  rcases entryAt?_of_attach attached query with same | ⟨⟨rest, rfl⟩, -, under⟩
  · rw [same]
    exact unraised.stands query
  · rw [under]
    simpa using below rest

theorem add (unraised : trie.Unraised) {path : Path} {symbol : Symbol} {token : Text}
    (way : path.joined.all Text.isUnraised = true) (small : symbol.all Text.isUnraised = true)
    (plain : Kana.noKatakana token = true) (added : trie.add path symbol token = .ok built) :
    built.Unraised := by
  refine unraised.attach (.leaf ⟨?_, plain⟩) added
  rw [Path.joined_append, List.all_append, way]
  simpa [Path.joined] using small

theorem merged (unraised : trie.Unraised) (laid : layer.Unraised) :
    (Trie.merged Resolver.ruled [trie, layer] none).Unraised where
  ignores := unraised.ignores
  blank := unraised.blank
  stands := by
    have resolved (path : Path) (one two three four : Entry Text) (here : UnraisedAt path one)
        (there : UnraisedAt path three) :
        UnraisedAt path
          ⟨Resolver.ruled one.alone three.alone, one.terminal.either three.terminal⟩ := by
      by_cases own : three.terminal.taken
      · simp only [Resolver.ruled, Entry.alone, own, if_true]
        exact ⟨there.way, there.token⟩
      · simp only [Resolver.ruled, Entry.alone, own]
        exact ⟨here.way, here.token⟩
    have top : UnraisedAt [] ⟨trie.placeholder, some false⟩ := by
      rw [unraised.blank]
      exact ⟨rfl, rfl⟩
    have plain : (Resolver.ruled : Resolver Text).Plain := Resolver.plain_ruled
    exact ((Node.Pointwise.leaf top).merge plain plain unraised.stands resolved).merge plain plain
      laid.stands resolved

end Unraised
end Trie

namespace ComposerRules

structure Unraising (rules : ComposerRules) : Prop where
  typed : ∀ rule ∈ rules.typedRules ++ rules.obsoleteKana.entries,
    (Path.lowered rule.1).joined.all Text.isUnraised = true ∧ Kana.noKatakana rule.2 = true
  sokuon : Kana.noKatakana rules.sokuon = true
  marks : ∀ mark ∈ rules.longVowelMarks.entries, mark.1.all Text.isUnraised = true
  suffixes : ∀ suffix ∈ rules.longVowelSuffixes.entries, Kana.noKatakana suffix.2 = true
  punctuation : ∀ mark ∈ rules.punctuation.entries,
    mark.1.all Text.isUnraised = true ∧ Kana.noKatakana mark.2 = true

namespace Unraising
variable {rules : ComposerRules} (unraising : rules.Unraising)

theorem keeps_addEchoes : Keeps Trie.Unraised (addEchoes .hiragana) := by
  refine Ends.change fun trie built unraised echoed => ?_
  split at echoed <;> cases echoed
  refine ⟨unraised.ignores, unraised.blank,
    unraised.stands.relabelBelow fun path entry _ stands => ?_⟩
  split
  · exact ⟨stands.way, Kana.noKatakana_of_isUnraised stands.way⟩
  · exact ⟨stands.way, stands.token⟩

include unraising

theorem keeps_addDoubling : Keeps Trie.Unraised (rules.addDoubling .hiragana) := by
  refine rules.keeps_doubling .hiragana fun parent letter source _ => Ends.change ?_
  rintro trie built ⟨unraised, led, under⟩ attached
  obtain ⟨above, found⟩ := Option.ne_none_iff_exists'.1 under
  have parentWay : parent.all Text.isUnraised = true := by
    have there : trie.root.entryAt? [parent] = some above.entry := by
      simp [Node.entryAt?_cons, found]
    simpa [Path.joined] using (unraised.at_ there).way
  refine unraised.attach ?_ attached
  refine (unraised.stands.child led led).mapTokens fun path entry _ stands => ⟨?_, ?_⟩
  · rw [List.singleton_append, Path.joined_cons, List.all_append, parentWay, stands.way]
    rfl
  · rw [Kana.noKatakana_append, stands.token]
    simpa [Script.write] using unraising.sokuon

theorem keeps_addLongVowels : Keeps Trie.Unraised (rules.addLongVowels .hiragana) := by
  refine rules.keeps_longVowels .hiragana fun path mark listed trie built node ending unraised
    found prolonged added => ?_
  have there : trie.root.entryAt? (path ++ [mark.2]) = some node.entry := by
    rw [Node.entryAt?, found]
    rfl
  have stands := unraised.at_ there
  have way := stands.way
  rw [Path.joined_append, List.all_append, Bool.and_eq_true] at way
  have plain : Kana.noKatakana ending = true := by
    simp only [prolongation] at prolonged
    split at prolonged
    · next known =>
      obtain rfl := Except.ok.inj prolonged
      exact unraising.suffixes _ (Table.mem_entries_of_get? known)
    · cases prolonged
  refine unraised.add way.1 (unraising.marks mark listed) ?_ added
  rw [Kana.noKatakana_append, stands.token, plain]
  rfl

theorem keeps_addPunctuation : Keeps Trie.Unraised rules.addPunctuation :=
  Ends.forM (fun _ => _) [] _ fun _ mark listed => Ends.change fun _ _ unraised added =>
    have ⟨small, plain⟩ := unraising.punctuation mark listed
    unraised.add rfl small plain added

theorem unraised_scriptTrie {trie : Trie Text} (built : rules.scriptTrie .hiragana = .ok trie) :
    trie.Unraised := by
  have plain : Keeps Trie.Unraised (rules.buildPlain .hiragana) :=
    rules.ends_plain .hiragana (fun rule listed _ _ _ unraised ran =>
      have ⟨small, plain⟩ := unraising.typed rule (List.mem_append_left _ listed)
      unraised.insert small plain (of_run_insertNew ran).2) keeps_addEchoes
  have stages : Keeps Trie.Unraised (rules.buildScript .hiragana) :=
    (plain.bind fun _ => unraising.keeps_addDoubling).bind fun _ =>
      unraising.keeps_addLongVowels.discard.bind fun _ => unraising.keeps_addPunctuation
  exact stages .empty (build_eq_ok.1 built)

theorem unraised_compile {obsolete : Choice} {ruleSet : ComposerRuleSet}
    (compiled : rules.compile obsolete = .ok ruleSet) : ruleSet.hiragana.Unraised := by
  obtain ⟨hiragana, first, compiled⟩ := Steps.bind_eq_ok.1 compiled
  obtain ⟨katakana, -, compiled⟩ := Steps.bind_eq_ok.1 compiled
  obtain ⟨spelled, given, compiled⟩ := Steps.bind_eq_ok.1 compiled
  obtain ⟨other, -, made⟩ := Steps.bind_eq_ok.1 compiled
  obtain rfl := Except.ok.inj made
  have unraised := unraising.unraised_scriptTrie first
  have spelledToo : spelled.Unraised := by
    rcases spelledOld : obsolete.taken with _ | _
    · rw [spelledOld] at given
      obtain rfl := Except.ok.inj given
      exact unraised
    · rw [spelledOld] at given
      obtain ⟨layer, laid, made⟩ := Steps.bind_eq_ok.1 given
      obtain rfl := Except.ok.inj made
      simp only [obsoleteTrie, Table.mapValues, List.map_map] at laid
      exact unraised.merged (Trie.Unraised.empty.insertAll
        (fun rule listed => unraising.typed rule (List.mem_append_right _ listed)) laid)
  exact ⟨spelledToo.ignores, spelledToo.blank, spelledToo.stands⟩

end Unraising

theorem unraising_standard : standard.Unraising where
  typed := by decide +kernel
  sokuon := by decide
  marks := by decide +kernel
  suffixes := by decide +kernel
  punctuation := by decide +kernel

end ComposerRules
end Honji
