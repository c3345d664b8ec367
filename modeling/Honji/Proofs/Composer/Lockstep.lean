import Honji.Composer.Converter
import Honji.Proofs.Trie.Rules
import Honji.Proofs.Trie.Twin

/-!
The composing tries of the two scripts go in lockstep: whatever the rules, every stage by which
they are built does the same to the outline of both, and so does every layer laid over them. A
match in katakana therefore consumes what the match in hiragana consumed.
-/

namespace Honji
open Build

namespace ComposerRules
variable (rules : ComposerRules) (script other : Script)

theorem twin_addRule (letters kana : Text) :
    Twins (addRule script letters kana) (addRule other letters kana) :=
  Twin.insertNew ..

theorem twin_addRow (consonant row : Text) :
    Twins (addRow script consonant row) (addRow other consonant row) := by
  unfold addRow
  split
  · exact Joint.throw_left ..
  · exact Joint.forM fun _ _ => twin_addRule ..

theorem twin_addSyllables :
    Twins (rules.addSyllables script) (rules.addSyllables other) := by
  unfold addSyllables
  refine (Joint.forM fun _ _ => twin_addRule ..).bind fun _ _ _ => ?_
  refine (Joint.forM fun _ _ => twin_addRow ..).bind fun _ _ _ => ?_
  refine (Joint.forM fun _ _ => Joint.forM fun _ _ => twin_addRule ..).bind fun _ _ _ => ?_
  refine (Joint.forM fun _ _ => Joint.forM fun _ _ => twin_addRule ..).bind fun _ _ _ => ?_
  exact (twin_addRule ..).bind fun _ _ _ => twin_addRule ..

theorem twin_addContractions :
    Twins (rules.addContractions script) (rules.addContractions other) :=
  Joint.forM fun _ _ => Joint.forM fun _ _ => twin_addRule ..

theorem twin_addEchoes : Twins (addEchoes script) (addEchoes other) := by
  apply Joint.change
  intro trie otherTrie built otherBuilt alike ran otherRan
  split at ran <;> split at otherRan <;> cases ran <;> cases otherRan
  exact ⟨by simpa using alike.outline, alike.caseInsensitive, alike.frozen⟩

theorem twin_addDoubled {source otherSource : Node Text} (parent symbol : Symbol)
    (same : source.outline = otherSource.outline) :
    Twins (rules.addDoubled script parent symbol source)
      (rules.addDoubled other parent symbol otherSource) :=
  Twin.attach _ _ (by simpa using same)

theorem twin_addDoubling :
    Twins (rules.addDoubling script) (rules.addDoubling other) := by
  unfold addDoubling
  refine (Joint.forM fun consonant _ => ?_).bind fun _ _ _ => ?_
  · apply Twin.root.bind
    intro root otherRoot same
    have child := congrArg (·.child? consonant) same
    simp only [Node.child?_outline] at child
    cases here : root.child? consonant <;> cases there : otherRoot.child? consonant <;>
      simp only [here, there, Option.map_none, Option.map_some, Option.some.injEq,
        reduceCtorEq] at child
    · exact Joint.throw_left ..
    · exact twin_addDoubled rules script other _ _ child
  · apply Twin.root.bind
    intro root otherRoot _
    split
    · exact Joint.throw_left ..
    · next first _ _ =>
      apply Twin.root.bind
      intro later otherLater same
      have child := congrArg (·.child? [first]) same
      simp only [Node.child?_outline] at child
      split
      · next _ _ _ here =>
        split
        · next _ _ _ there =>
          rw [here, there] at child
          exact twin_addDoubled rules script other _ _ (Option.some.inj child)
        · exact Joint.throw_right ..
      · exact Joint.throw_left ..

theorem twin_addLongVowel (path : Path) (mark vowel : Text) :
    Twin (· = ·) (rules.addLongVowel script path mark vowel)
      (rules.addLongVowel other path mark vowel) := by
  unfold addLongVowel
  apply Twin.root.bind
  intro root otherRoot same
  have child := congrArg (·.find? (path ++ [vowel])) same
  simp only [Node.find?_outline] at child
  cases here : root.find? (path ++ [vowel]) <;> cases there : otherRoot.find? (path ++ [vowel]) <;>
    simp only [here, there, Option.map_none, Option.map_some, Option.some.injEq,
      reduceCtorEq] at child
  · exact Joint.pure rfl
  · exact (Joint.lift _ _).bind fun _ _ _ => (Twin.add ..).bind fun _ _ _ => Joint.pure rfl

theorem prolongable_eq {root otherRoot : Node Text} (same : root.outline = otherRoot.outline) :
    rules.prolongable root = rules.prolongable otherRoot := by
  have paths : root.paths = otherRoot.paths := by
    rw [← root.paths_outline, same, Node.paths_outline]
  unfold prolongable
  rw [paths]
  apply List.filter_congr
  intro path _
  have child := congrArg (·.find? path) same
  simp only [Node.find?_outline] at child
  have any (node : Node Text) :
      ((node.find? path).map Node.outline).any
        (fun node => rules.longVowelSuffixes.keys.any (node.keys.contains ·)) =
      (node.find? path).any fun node =>
        rules.longVowelSuffixes.keys.any (node.keys.contains ·) := by
    cases node.find? path <;> simp
  rw [← any root, child, any otherRoot]

theorem twin_addLongVowels :
    Twins (rules.addLongVowels script) (rules.addLongVowels other) := by
  unfold addLongVowels
  apply Twin.root.bind
  intro root otherRoot same
  rw [rules.prolongable_eq same]
  refine (Joint.mapM fun path _ => ?_).bind fun _ _ _ => Joint.pure trivial
  refine (Joint.mapM fun _ _ => twin_addLongVowel ..).bind fun marks otherMarks sameMarks => ?_
  exact Joint.pure (congrArg (List.foldl (· + ·) 0) sameMarks)

theorem twin_buildPlain : Twins (rules.buildPlain script) (rules.buildPlain other) :=
  (rules.twin_addSyllables script other).bind fun _ _ _ =>
    (rules.twin_addContractions script other).bind fun _ _ _ => twin_addEchoes script other

theorem twin_buildDoubled : Twins (rules.buildDoubled script) (rules.buildDoubled other) :=
  (rules.twin_buildPlain script other).bind fun _ _ _ => rules.twin_addDoubling script other

theorem twin_buildScript : Twins (rules.buildScript script) (rules.buildScript other) :=
  (rules.twin_buildDoubled script other).bind fun _ _ _ =>
    (rules.twin_addLongVowels script other).discard.bind fun _ _ _ =>
      Joint.forM fun _ _ => Twin.add ..

variable {rules script other}

theorem alike_scriptTrie {trie otherTrie : Trie Text} (built : rules.scriptTrie script = .ok trie)
    (otherBuilt : rules.scriptTrie other = .ok otherTrie) : trie.Alike otherTrie :=
  (rules.twin_buildScript script other ⟨rfl, rfl, rfl⟩ (build_eq_ok.1 built)
    (build_eq_ok.1 otherBuilt)).2

theorem agree_obsoleteTrie : Agree Trie.Alike (rules.obsoleteTrie script)
    (rules.obsoleteTrie other) := by
  simp only [obsoleteTrie, Table.mapValues, List.map_map]
  exact Trie.Alike.insertAll ⟨rfl, rfl, rfl⟩ _ _ _ _

theorem agree_spellingTrie {trie otherTrie : Trie Text} (alike : trie.Alike otherTrie)
    (obsolete : Bool) : Agree Trie.Alike (rules.spellingTrie script obsolete trie)
      (rules.spellingTrie other obsolete otherTrie) := by
  cases obsolete with
  | false => exact .ok alike
  | true => exact agree_obsoleteTrie.bind fun _ _ laid => .ok (alike.merged laid _ _ _)

def obsoletePaths (rules : ComposerRules) (obsolete : Bool) : List Path :=
  if obsolete then rules.obsoleteKana.keys.map Path.ofText else []

theorem spellingTrie_cases (rules : ComposerRules) (script : Script) (obsolete : Bool)
    (trie : Trie Text) :
    ([] ∈ rules.obsoletePaths obsolete ∧
        rules.spellingTrie script obsolete trie = .error .emptyPath) ∨
      ([] ∉ rules.obsoletePaths obsolete ∧
        ∃ spelled, rules.spellingTrie script obsolete trie = .ok spelled) := by
  cases obsolete with
  | false => exact .inr ⟨by simp [obsoletePaths], trie, rfl⟩
  | true =>
      have paths : ((rules.obsoleteKana.mapValues script.write).entries.map fun entry =>
          (Path.ofText entry.1, entry.2)).map Prod.fst = rules.obsoletePaths true := by
        simp [obsoletePaths, Table.mapValues, Table.keys, Function.comp_def]
      rcases Trie.insertAll_cases (Trie.empty true []) rfl
        ((rules.obsoleteKana.mapValues script.write).entries.map fun entry =>
          (Path.ofText entry.1, entry.2)) with ⟨empty, fails⟩ | ⟨filled, obsolete, given⟩
      · refine .inl ⟨paths ▸ empty, ?_⟩
        have refused : rules.obsoleteTrie script = .error .emptyPath := fails
        simp [spellingTrie, refused, bind, Except.bind]
      · refine .inr ⟨paths ▸ filled, Trie.merged Resolver.ruled [trie, obsolete] none, ?_⟩
        have accepted : rules.obsoleteTrie script = .ok obsolete := given
        simp [spellingTrie, accepted, bind, Except.bind]
        rfl

def makeComposer (rules : ComposerRules) (obsolete : Choice) (own : Option (Mapping Text)) :
    Except Failure Composer := do
  Composer.create (← rules.compile obsolete) own

end ComposerRules

namespace Composer

def active (composer : Composer) (mapping : Option (Mapping Text)) :
    Except Failure (Trie Text × Trie Text) := do
  let hiragana ← composer.hiragana.overlay Resolver.ruled mapping
  let katakana ← composer.katakana.overlay Resolver.ruled mapping
  return (hiragana, katakana)

theorem pieces_of_active {composer : Composer} {mapping : Option (Mapping Text)}
    {hiragana katakana : Trie Text} (active : composer.active mapping = .ok (hiragana, katakana))
    (text : Text) : composer.pieces mapping text = .ok (tokenize hiragana katakana text) := by
  unfold Composer.active at active
  cases text with
  | nil => rfl
  | cons character rest =>
      unfold pieces
      cases first : composer.hiragana.overlay Resolver.ruled mapping <;>
        cases second : composer.katakana.overlay Resolver.ruled mapping <;>
        simp_all [bind, Except.bind, pure, Except.pure]

theorem span_headMatch {hiragana katakana : Trie Text} (alike : hiragana.Alike katakana)
    (start : Nat) (character : Char) (rest : Text) :
    (headMatch hiragana katakana start character rest).span =
      (hiragana.headMatch start character rest).span := by
  unfold headMatch
  dsimp only
  split
  · exact (alike.span_headMatch start character rest).symm
  · rfl

theorem map_span_tokenize {hiragana katakana : Trie Text} (alike : hiragana.Alike katakana)
    (text : Text) : (tokenize hiragana katakana text).map Match.span =
      (hiragana.tokenize text).map Match.span :=
  Match.map_span_scan (span_headMatch alike) 0 0 text

/--
Two tries go in lockstep for a call of a composer: at every path, taken as it stands or looked up,
they have the same children in the same order and the same flag, every match in one consumes what
the match in the other does, and the pieces of the call are cut as the first trie alone would cut
them.
-/
structure Lockstep (composer : Composer) (mapping : Option (Mapping Text))
    (hiragana katakana : Trie Text) : Prop where
  children : ∀ path,
    (hiragana.root.find? path).map (fun node => (node.keys, node.entry.terminal)) =
      (katakana.root.find? path).map fun node => (node.keys, node.entry.terminal)
  lookups : ∀ path,
    (hiragana.find? path).map (fun node => (node.keys, node.entry.terminal)) =
      (katakana.find? path).map fun node => (node.keys, node.entry.terminal)
  cuts : ∀ text position,
    (hiragana.matchAt text position).map Match.span =
      (katakana.matchAt text position).map Match.span
  pieces : ∀ text, ∃ pieces, composer.pieces mapping text = .ok pieces ∧
    pieces.map Match.span = (hiragana.tokenize text).map Match.span

theorem Lockstep.of_alike {composer : Composer} {mapping : Option (Mapping Text)}
    {hiragana katakana : Trie Text} (active : composer.active mapping = .ok (hiragana, katakana))
    (alike : hiragana.Alike katakana) : Lockstep composer mapping hiragana katakana where
  children := alike.children
  lookups := alike.lookups
  cuts := alike.span_matchAt
  pieces := fun text => ⟨_, pieces_of_active active text, map_span_tokenize alike text⟩

end Composer

namespace ComposerRules
variable {rules : ComposerRules}

theorem compile_cases {hiragana katakana : Trie Text}
    (first : rules.scriptTrie .hiragana = .ok hiragana)
    (second : rules.scriptTrie .katakana = .ok katakana) (obsolete : Choice) :
    ([] ∈ rules.obsoletePaths obsolete.taken ∧ rules.compile obsolete = .error .emptyPath) ∨
      ([] ∉ rules.obsoletePaths obsolete.taken ∧ ∃ ruleSet, rules.compile obsolete = .ok ruleSet ∧
        ruleSet.hiragana.Alike ruleSet.katakana) := by
  have agree : Agree Trie.Alike (rules.spellingTrie .hiragana obsolete.taken hiragana)
      (rules.spellingTrie .katakana obsolete.taken katakana) :=
    agree_spellingTrie (alike_scriptTrie first second) obsolete.taken
  rcases rules.spellingTrie_cases .hiragana obsolete.taken hiragana with
    ⟨empty, fails⟩ | ⟨filled, spelled, given⟩
  · exact .inl ⟨empty, by simp [compile, first, second, fails, bind, Except.bind]⟩
  · rw [given] at agree
    generalize also : rules.spellingTrie .katakana obsolete.taken katakana = outcome at agree
    cases agree with
    | @ok _ other alike =>
        refine .inr ⟨filled, ⟨spelled.freeze, other.freeze, obsolete⟩, ?_, alike.freeze⟩
        simp [compile, first, second, given, also, bind, Except.bind, pure, Except.pure]

theorem create_cases {ruleSet : ComposerRuleSet} (alike : ruleSet.hiragana.Alike ruleSet.katakana)
    (own : Option (Mapping Text)) :
    ([] ∈ Mapping.pathsOf own ∧ Composer.create ruleSet own = .error .emptyPath) ∨
      ([] ∉ Mapping.pathsOf own ∧ ∃ composer, Composer.create ruleSet own = .ok composer ∧
        composer.hiragana.Alike composer.katakana) := by
  rcases alike.overlay_cases Resolver.ruled own with
    ⟨empty, fails⟩ | ⟨filled, laid, other, given, also, alike⟩
  · exact .inl ⟨empty, by simp [Composer.create, fails, bind, Except.bind]⟩
  · refine .inr ⟨filled, ⟨ruleSet, laid.freeze, other.freeze, own.isSome⟩, ?_, alike.freeze⟩
    simp [Composer.create, given, also, bind, Except.bind, pure, Except.pure]

theorem active_cases {composer : Composer} (alike : composer.hiragana.Alike composer.katakana)
    (call : Option (Mapping Text)) :
    ([] ∈ Mapping.pathsOf call ∧ composer.active call = .error .emptyPath) ∨
      ([] ∉ Mapping.pathsOf call ∧ ∃ hiragana katakana,
        composer.active call = .ok (hiragana, katakana) ∧ hiragana.Alike katakana) := by
  rcases alike.overlay_cases Resolver.ruled call with
    ⟨empty, fails⟩ | ⟨filled, laid, other, given, also, alike⟩
  · exact .inl ⟨empty, by simp [Composer.active, fails, bind, Except.bind]⟩
  · refine .inr ⟨filled, laid, other, ?_, alike⟩
    simp [Composer.active, given, also, bind, Except.bind, pure, Except.pure]

/--
Rule tables from which the tries of both scripts can be built give composers whose tries go in
lockstep, in either spelling and under any rules of a caller's own. The only way in which such a
composer or a call can fail is a rule with an empty path.
-/
theorem makeComposer_lockstep {hiragana katakana : Trie Text}
    (first : rules.scriptTrie .hiragana = .ok hiragana)
    (second : rules.scriptTrie .katakana = .ok katakana)
    (obsolete : Choice) (own call : Option (Mapping Text)) :
    ([] ∈ rules.obsoletePaths obsolete.taken ++ Mapping.pathsOf own ++ Mapping.pathsOf call ∧
        (rules.makeComposer obsolete own >>= (·.active call)) = .error .emptyPath) ∨
      ∃ composer hiragana katakana, rules.makeComposer obsolete own = .ok composer ∧
        composer.active call = .ok (hiragana, katakana) ∧
        composer.Lockstep call hiragana katakana := by
  rcases compile_cases first second obsolete with ⟨empty, fails⟩ | ⟨-, ruleSet, compiled, alike⟩
  · exact .inl ⟨by simp [empty], by simp [makeComposer, fails, bind, Except.bind]⟩
  rcases create_cases alike own with ⟨empty, fails⟩ | ⟨-, composer, created, alike⟩
  · exact .inl ⟨by simp [empty], by simp [makeComposer, compiled, fails, bind, Except.bind]⟩
  have made : rules.makeComposer obsolete own = .ok composer := by
    simp [makeComposer, compiled, created, bind, Except.bind]
  rcases active_cases alike call with ⟨empty, fails⟩ | ⟨-, hiragana, katakana, active, alike⟩
  · exact .inl ⟨by simp [empty], by simp [made, fails, bind, Except.bind]⟩
  · exact .inr ⟨composer, hiragana, katakana, made, active, .of_alike active alike⟩

def dental : ComposerRules :=
  { standard with
    consonantRows := .ofStrings [("t", "たちつてと")]
    irregularRows := .ofPairs [("ch".toList, .ofStrings [("a", "ちゃ"), ("i", "ち")])]
    smallPrefixes := []
    contractionConsonants := .ofStrings [("t", "ち")]
    geminationConsonants := ["t".toList] }

theorem makeComposer_lockstep_dental :
    ∃ composer hiragana katakana,
      dental.makeComposer (some true)
        (some (.table (.ofPairs [(.text "dog".toList, "いぬ".toList)]))) = .ok composer ∧
      composer.active (some (.sequence [(.text "Ta".toList, "た".toList)])) =
        .ok (hiragana, katakana) ∧
      composer.Lockstep (some (.sequence [(.text "Ta".toList, "た".toList)])) hiragana katakana := by
  have built (script : Script) : ∃ trie, dental.scriptTrie script = .ok trie := by
    have known : ∀ script, (dental.scriptTrie script).isOk = true := by
      rintro (_ | _) <;> decide +kernel
    cases outcome : dental.scriptTrie script with
    | error failure => exact absurd (known script) (by simp [outcome, Except.isOk, Except.toBool])
    | ok trie => exact ⟨trie, rfl⟩
  obtain ⟨hiragana, first⟩ := built .hiragana
  obtain ⟨katakana, second⟩ := built .katakana
  exact (makeComposer_lockstep first second (some true) _ _).resolve_left
    fun ⟨empty, _⟩ => absurd empty (by decide)

end ComposerRules
end Honji
