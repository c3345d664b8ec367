import Honji.Proofs.Composer.Raised

/-!
Each stage by which the composing tries are built keeps the tokens in katakana raised, if the tables
write kana under keys of letters. So do the rules of the older spelling.
-/

namespace Honji
open Build

/-- Two tries alike that ignore case; what stands in the second is raised. -/
structure Trie.Raises (small capital : Trie Text) : Prop where
  alike : small.Alike capital
  ignores : small.caseInsensitive = true
  blank : small.placeholder = []
  otherBlank : capital.placeholder = []
  tokens : small.root.Pointwise RaisedAt capital.root

def Text.isTyped (letters : Text) : Bool :=
  letters.all fun letter => Text.isWestern (Text.lower [letter])

theorem Text.isTyped_append {first second : Text} :
    isTyped (first ++ second) = (isTyped first && isTyped second) :=
  List.all_append

namespace Trie.Raises

theorem empty : Raises (.empty true []) (.empty true []) where
  alike := ⟨rfl, rfl, rfl⟩
  ignores := rfl
  blank := rfl
  otherBlank := rfl
  tokens := .leaf ⟨rfl, by simp, fun _ => rfl, fun _ => rfl⟩

theorem changed {small capital : Trie Text} (raises : small.Raises capital)
    {root other : Node Text}
    (alike : Alike { small with root := root } { capital with root := other })
    (tokens : root.Pointwise RaisedAt other) :
    Raises { small with root := root } { capital with root := other } :=
  ⟨alike, raises.ignores, raises.blank, raises.otherBlank, tokens⟩

theorem insert {small capital built otherBuilt : Trie Text} (raises : small.Raises capital)
    {letters token other : Text} (typed : letters.isTyped = true)
    (raised : ∀ path, (∀ symbol ∈ path, Text.isWestern symbol = true) →
      RaisedAt path ⟨token, some true⟩ ⟨other, some true⟩)
    (ran : small.insert (Path.ofText letters) token = .ok built)
    (otherRan : capital.insert (Path.ofText letters) other = .ok otherBuilt) :
    built.Raises otherBuilt := by
  have alike := raises.alike.insert (Path.ofText letters) token other
  rw [ran, otherRan] at alike
  obtain ⟨filled, -, rfl⟩ := insert_eq_ok.1 ran
  obtain ⟨-, -, rfl⟩ := insert_eq_ok.1 otherRan
  have western : ∀ symbol ∈ (Path.ofText letters).map small.normalize,
      Text.isWestern symbol = true := by
    simpa [Path.ofText, Trie.normalize, raises.ignores, Text.isTyped] using typed
  cases alike with
  | ok alike =>
      refine raises.changed alike ?_
      rw [← raises.alike.normalize]
      refine raises.tokens.insert (by simpa using filled) (raised _ western) fun query before => ?_
      rw [raises.blank, raises.otherBlank]
      exact ⟨rfl, fun symbol member => western symbol (before.subset member), fun _ => rfl,
        fun _ => rfl⟩

theorem insertAll {small capital : Trie Text} (raises : small.Raises capital)
    {rules : List (Text × Text)}
    (writes : ∀ rule ∈ rules, rule.1.isTyped = true ∧ Text.isCaseless rule.2 = true)
    {built otherBuilt : Trie Text}
    (ran : small.insertAll (rules.map fun rule =>
      (Path.ofText rule.1, Script.hiragana.write rule.2)) = .ok built)
    (otherRan : capital.insertAll (rules.map fun rule =>
      (Path.ofText rule.1, Script.katakana.write rule.2)) = .ok otherBuilt) :
    built.Raises otherBuilt := by
  induction rules generalizing small capital with
  | nil =>
      obtain rfl := Except.ok.inj ran
      obtain rfl := Except.ok.inj otherRan
      exact raises
  | cons rule rules ih =>
      obtain ⟨⟨typed, caseless⟩, rest⟩ := List.forall_mem_cons.1 writes
      obtain ⟨next, here, ran⟩ := Steps.bind_eq_ok.1 ran
      obtain ⟨other, there, otherRan⟩ := Steps.bind_eq_ok.1 otherRan
      exact ih (raises.insert typed (fun _ western => .kana western caseless _) here there) rest
        ran otherRan

theorem merged {small capital layer otherLayer : Trie Text} (raises : small.Raises capital)
    (laid : layer.Raises otherLayer) :
    (Trie.merged Resolver.ruled [small, layer] none).Raises
      (Trie.merged Resolver.ruled [capital, otherLayer] none) where
  alike := raises.alike.merged laid.alike _ _ _
  ignores := raises.ignores
  blank := raises.blank
  otherBlank := raises.otherBlank
  tokens := by
    have resolved (path : Path) (one two three four : Entry Text) (here : RaisedAt path one two)
        (there : RaisedAt path three four) :
        RaisedAt path ⟨Resolver.ruled one.alone three.alone, one.terminal.either three.terminal⟩
          ⟨Resolver.ruled two.alone four.alone, two.terminal.either four.terminal⟩ := by
      simp only [Resolver.ruled, Entry.alone, here.terminal, there.terminal]
      by_cases own : three.terminal.taken
      · simp only [own, if_true]
        exact ⟨rfl, there.western, there.token, there.settled⟩
      · simp only [own]
        exact ⟨rfl, here.western, here.token, here.settled⟩
    have top : RaisedAt [] ⟨small.placeholder, some false⟩ ⟨capital.placeholder, some false⟩ := by
      rw [raises.blank, raises.otherBlank]
      exact ⟨rfl, by simp, fun _ => rfl, fun _ => rfl⟩
    have plain : (Resolver.ruled : Resolver Text).Plain := Resolver.plain_ruled
    exact ((Node.Pointwise.leaf top).merge plain plain raises.tokens resolved).merge plain plain
      laid.tokens resolved

theorem freeze {small capital : Trie Text} (raises : small.Raises capital) :
    small.freeze.Raises capital.freeze :=
  ⟨raises.alike.freeze, raises.ignores, raises.blank, raises.otherBlank, raises.tokens⟩

end Trie.Raises

namespace Build

theorem joint_insert {letters token other : Text} (typed : letters.isTyped = true)
    (raised : ∀ path, (∀ symbol ∈ path, Text.isWestern symbol = true) →
      RaisedAt path ⟨token, some true⟩ ⟨other, some true⟩) :
    Joints Trie.Raises (insert (Path.ofText letters) token)
      (insert (Path.ofText letters) other) :=
  Joint.change fun _ _ _ _ raises ran otherRan => raises.insert typed raised ran otherRan

theorem joint_attach {path : Path} {symbol : Symbol} {child other : Node Text}
    (same : child.outline = other.outline)
    (below : child.Pointwise (fun query => RaisedAt (path ++ symbol :: query)) other) :
    Joints Trie.Raises (attach path symbol child) (attach path symbol other) := by
  intro trie otherTrie built otherBuilt one two raises ran otherRan
  obtain ⟨-, alike⟩ := Twin.attach path symbol same raises.alike ran otherRan
  obtain ⟨-, free, rfl⟩ := Trie.attach_eq_ok.1 (run_change_eq_ok.1 ran)
  obtain ⟨-, -, rfl⟩ := Trie.attach_eq_ok.1 (run_change_eq_ok.1 otherRan)
  have fresh : trie.root.find? (path ++ [symbol]) = none := by
    rw [Node.find?_append]
    cases found : trie.root.find? path with
    | none => rfl
    | some node =>
        have unknown : node.child? symbol = none := by
          simpa [found, Node.child?_eq_none_iff] using free
        simp [Node.find?_cons, unknown]
  exact ⟨trivial, raises.changed alike (raises.tokens.plant fresh below)⟩

theorem joint_add {path : Path} {symbol : Symbol} {token other : Text}
    (raised : RaisedAt (path ++ [symbol]) ⟨token, some true⟩ ⟨other, some true⟩) :
    Joints Trie.Raises (add path symbol token) (add path symbol other) :=
  joint_attach rfl (.leaf raised)

theorem joint_root : Joint Trie.Raises (fun one two => one.outline = two.outline ∧
    one.Pointwise RaisedAt two) root root :=
  Joint.root fun _ _ raises => ⟨raises.alike.outline, raises.tokens⟩

end Build

theorem Node.Pointwise.western {one two : Node Text} (tokens : one.Pointwise RaisedAt two)
    {path : Path} (leads : one.find? path ≠ none) :
    ∀ symbol ∈ path, Text.isWestern symbol = true := by
  have here := tokens path
  obtain ⟨node, found⟩ := Option.ne_none_iff_exists'.1 leads
  rw [entryAt?, found, Option.map_some] at here
  generalize two.entryAt? path = other at here
  cases here with
  | some raised => exact raised.western

namespace ComposerRules

def Writes (table : Table Text Text) : Prop :=
  ∀ entry ∈ table.entries, entry.1.isTyped = true ∧ entry.2.all Text.isEastern = true

instance (table : Table Text Text) : Decidable (Writes table) :=
  inferInstanceAs (Decidable (∀ entry ∈ table.entries, _))

theorem Writes.of_mem {table : Table Text Text} (writes : Writes table) {entry : Text × Text}
    (member : entry ∈ table.entries) :
    entry.1.isTyped = true ∧ Text.isCaseless entry.2 = true :=
  ⟨(writes entry member).1, Text.isCaseless_of_isEastern (writes entry member).2⟩

@[mk_iff]
structure Raisable (rules : ComposerRules) : Prop where
  vowels : Writes rules.vowels
  consonantRows : Writes rules.consonantRows
  irregularRows : ∀ row ∈ rules.irregularRows.entries, row.1.isTyped = true ∧ Writes row.2
  smallPrefixes : ∀ mark ∈ rules.smallPrefixes, mark.isTyped = true
  smallKana : Writes rules.smallKana
  nasal : rules.nasal.isTyped = true ∧ rules.nasalKana.all Text.isEastern = true
  contractionConsonants : Writes rules.contractionConsonants
  contractionGlides : Writes rules.contractionGlides
  sokuon : rules.sokuon.all Text.isEastern = true
  longVowels : ∀ entry ∈ rules.longVowelMarks.entries,
    Text.isWestern entry.1 = true ∧ Text.isAscii entry.1 = false
  punctuation : ∀ entry ∈ rules.punctuation.entries, Text.isWestern entry.1 = true ∧
    Text.isCaseless entry.2 = true ∧ Kana.toKatakana entry.2 = entry.2
  obsoleteKana : Writes rules.obsoleteKana

instance (rules : ComposerRules) : Decidable (Raisable rules) :=
  decidable_of_iff' _ (raisable_iff rules)

theorem joint_addRule {letters kana : Text} (typed : letters.isTyped = true)
    (caseless : Text.isCaseless kana = true) :
    Joints Trie.Raises (addRule .hiragana letters kana) (addRule .katakana letters kana) :=
  Joint.insertNew (joint_insert typed fun _ western => .kana western caseless _)

variable {rules : ComposerRules}

theorem joint_addRule_append {first second kana : Text} (typed : first.isTyped = true)
    (also : second.isTyped = true) (caseless : Text.isCaseless kana = true) :
    Joints Trie.Raises (addRule .hiragana (first ++ second) kana)
      (addRule .katakana (first ++ second) kana) :=
  joint_addRule (by rw [Text.isTyped_append, typed, also]; rfl) caseless

theorem joint_addRow {consonant row : Text} (typed : consonant.isTyped = true)
    (caseless : Text.isCaseless row = true) :
    Joints Trie.Raises (addRow .hiragana consonant row) (addRow .katakana consonant row) := by
  unfold addRow
  split
  · exact Joint.throw_left ..
  · refine Joint.forM fun pair member => joint_addRule_append typed ?_ ?_
    · have vowels : vowelOrder.isTyped = true := by decide +kernel
      simpa [Text.isTyped] using List.all_eq_true.1 vowels pair.1 (List.of_mem_zip member).1
    · simpa [Text.isCaseless] using
        List.all_eq_true.1 caseless pair.2 (List.of_mem_zip member).2

theorem joint_addEchoes : Joints Trie.Raises (addEchoes .hiragana) (addEchoes .katakana) := by
  intro trie otherTrie built otherBuilt one two raises ran otherRan
  obtain ⟨-, alike⟩ := twin_addEchoes .hiragana .katakana raises.alike ran otherRan
  have relabelled {script : Script} {trie built : Trie Text} {value : Unit}
      (ran : Steps.run (addEchoes script) trie = (.ok value, built)) :
      built = { trie with
        root := trie.root.relabelBelow fun path entry =>
          if waits entry then echo script path.joined else entry.token } := by
    have made := run_change_eq_ok.1 ran
    split at made <;> cases made
    rfl
  obtain rfl := relabelled ran
  obtain rfl := relabelled otherRan
  exact ⟨trivial, raises.changed alike (raises.tokens.relabelBelow fun _ _ _ here => here.echo)⟩

theorem joint_addLongVowel {path : Path} {mark vowel : Text}
    (western : ∀ symbol ∈ path, Text.isWestern symbol = true)
    (foreign : Text.isWestern mark = true) (longVowel : Text.isAscii mark = false) :
    Joint Trie.Raises (· = ·) (rules.addLongVowel .hiragana path mark vowel)
      (rules.addLongVowel .katakana path mark vowel) := by
  unfold addLongVowel
  refine joint_root.bind fun one two ⟨same, _⟩ => ?_
  have child := congrArg (·.find? (path ++ [vowel])) same
  simp only [Node.find?_outline] at child
  cases here : one.find? (path ++ [vowel]) <;> cases there : two.find? (path ++ [vowel]) <;>
    simp only [here, there, Option.map_none, Option.map_some, Option.some.injEq,
      reduceCtorEq] at child
  · exact Joint.pure rfl
  · refine (Joint.lift _ _).bind fun _ _ _ => ?_
    refine (joint_add (.marked western foreign longVowel ..)).bind fun _ _ _ => ?_
    exact Joint.pure rfl

namespace Raisable
variable (raisable : rules.Raisable)
include raisable

theorem joint_addSyllables :
    Joints Trie.Raises (rules.addSyllables .hiragana) (rules.addSyllables .katakana) := by
  obtain ⟨nasal, eastern⟩ := raisable.nasal
  have nasalKana := Text.isCaseless_of_isEastern eastern
  unfold addSyllables
  refine (Joint.forM fun entry member => ?_).bind fun _ _ _ => ?_
  · obtain ⟨typed, caseless⟩ := raisable.vowels.of_mem member
    exact joint_addRule typed caseless
  refine (Joint.forM fun entry member => ?_).bind fun _ _ _ => ?_
  · obtain ⟨typed, caseless⟩ := raisable.consonantRows.of_mem member
    exact joint_addRow typed caseless
  refine (Joint.forM fun row member => Joint.forM fun entry inside => ?_).bind fun _ _ _ => ?_
  · obtain ⟨beginning, writes⟩ := raisable.irregularRows row member
    obtain ⟨vowel, caseless⟩ := writes.of_mem inside
    exact joint_addRule_append beginning vowel caseless
  refine (Joint.forM fun mark member => Joint.forM fun entry inside => ?_).bind fun _ _ _ => ?_
  · obtain ⟨typed, caseless⟩ := raisable.smallKana.of_mem inside
    exact joint_addRule_append (raisable.smallPrefixes mark member) typed caseless
  refine (joint_addRule nasal nasalKana).bind fun _ _ _ => ?_
  exact joint_addRule_append nasal (by decide +kernel) nasalKana

theorem joint_addContractions :
    Joints Trie.Raises (rules.addContractions .hiragana) (rules.addContractions .katakana) := by
  refine Joint.forM fun consonant member => Joint.forM fun glide inside => ?_
  obtain ⟨typed, base⟩ := raisable.contractionConsonants.of_mem member
  obtain ⟨vowel, small⟩ := raisable.contractionGlides.of_mem inside
  have y : Text.isTyped ['y'] = true := by decide +kernel
  have letters : Text.isTyped ('y' :: glide.1) = true := by
    rw [← List.singleton_append, Text.isTyped_append, y, vowel]
    rfl
  exact joint_addRule_append typed letters (by
    rw [Text.isCaseless, List.all_append]
    exact Bool.and_eq_true_iff.2 ⟨base, small⟩)

theorem joint_addDoubled {source other : Node Text} {parent symbol : Symbol}
    (western : Text.isWestern parent = true) (same : source.outline = other.outline)
    (tokens : source.Pointwise (fun path => RaisedAt (symbol :: path)) other) :
    Joints Trie.Raises (rules.addDoubled .hiragana parent symbol source)
      (rules.addDoubled .katakana parent symbol other) := by
  refine joint_attach (by simpa using same) ?_
  exact tokens.mapTokens fun _ _ _ here => here.doubled western
    (Text.isCaseless_of_isEastern raisable.sokuon)

theorem joint_addDoubling :
    Joints Trie.Raises (rules.addDoubling .hiragana) (rules.addDoubling .katakana) := by
  have western {one two : Node Text} (tokens : one.Pointwise RaisedAt two) {symbol : Symbol}
      {child : Node Text} (led : one.child? symbol = some child) :
      Text.isWestern symbol = true := by
    have leads : one.find? [symbol] ≠ none := by simp [Node.find?_cons, led]
    exact tokens.western leads symbol (by simp)
  have children {one two : Node Text} (same : one.outline = two.outline) (symbol : Symbol) :
      (one.child? symbol).map Node.outline = (two.child? symbol).map Node.outline := by
    rw [← Node.child?_outline, same, Node.child?_outline]
  unfold addDoubling
  refine (Joint.forM fun consonant _ => ?_).bind fun _ _ _ => ?_
  · refine joint_root.bind fun one two ⟨same, tokens⟩ => ?_
    have child := children same consonant
    cases here : one.child? consonant <;> cases there : two.child? consonant <;>
      simp only [here, there, Option.map_none, Option.map_some, Option.some.injEq,
        reduceCtorEq] at child
    · exact Joint.throw_left ..
    · exact raisable.joint_addDoubled (western tokens here) child (tokens.child here there)
  · refine joint_root.bind fun one two ⟨_, tokens⟩ => ?_
    split
    · exact Joint.throw_left ..
    · next first _ _ =>
      refine joint_root.bind fun later otherLater ⟨same, laterTokens⟩ => ?_
      split
      · next led here =>
        split
        · next there =>
          have child := children same [first]
          rw [here, there] at child
          exact raisable.joint_addDoubled (western tokens led) (Option.some.inj child)
            (laterTokens.child here there)
        · exact Joint.throw_right ..
      · exact Joint.throw_left ..

theorem joint_addLongVowels :
    Joints Trie.Raises (rules.addLongVowels .hiragana) (rules.addLongVowels .katakana) := by
  unfold addLongVowels
  refine joint_root.bind fun one two ⟨same, tokens⟩ => ?_
  rw [rules.prolongable_eq same]
  refine (Joint.mapM fun path member => ?_).bind fun _ _ _ => Joint.pure trivial
  have leads : one.find? path ≠ none := by
    rw [← rules.prolongable_eq same, prolongable, List.mem_filter] at member
    intro missing
    simp [missing] at member
  refine (Joint.mapM fun entry inside => ?_).bind fun marks otherMarks sameMarks => ?_
  · obtain ⟨foreign, longVowel⟩ := raisable.longVowels entry inside
    exact joint_addLongVowel (tokens.western leads) foreign longVowel
  · exact Joint.pure (congrArg (List.foldl (· + ·) 0) sameMarks)

theorem joint_addPunctuation : Joints Trie.Raises rules.addPunctuation rules.addPunctuation := by
  refine Joint.forM fun entry member => joint_add ?_
  obtain ⟨western, caseless, shifted⟩ := raisable.punctuation entry member
  have raised : RaisedAt [entry.1] _ _ := .kana (by simpa using western) caseless (some true)
  simpa [shifted] using raised

theorem joint_buildPlain :
    Joints Trie.Raises (rules.buildPlain .hiragana) (rules.buildPlain .katakana) :=
  raisable.joint_addSyllables.bind fun _ _ _ =>
    raisable.joint_addContractions.bind fun _ _ _ => joint_addEchoes

theorem joint_buildDoubled :
    Joints Trie.Raises (rules.buildDoubled .hiragana) (rules.buildDoubled .katakana) :=
  raisable.joint_buildPlain.bind fun _ _ _ => raisable.joint_addDoubling

theorem joint_buildScript :
    Joints Trie.Raises (rules.buildScript .hiragana) (rules.buildScript .katakana) :=
  raisable.joint_buildDoubled.bind fun _ _ _ =>
    raisable.joint_addLongVowels.discard.bind fun _ _ _ => raisable.joint_addPunctuation

variable {hiragana katakana : Trie Text}

/-- The tries of the two scripts stand one above the other wherever both are built. -/
theorem raises_scriptTrie (first : rules.scriptTrie .hiragana = .ok hiragana)
    (second : rules.scriptTrie .katakana = .ok katakana) : hiragana.Raises katakana :=
  (raisable.joint_buildScript .empty (build_eq_ok.1 first) (build_eq_ok.1 second)).2

theorem raises_spellingTrie (raises : hiragana.Raises katakana) {obsolete : Bool}
    {spelled other : Trie Text}
    (first : rules.spellingTrie .hiragana obsolete hiragana = .ok spelled)
    (second : rules.spellingTrie .katakana obsolete katakana = .ok other) :
    spelled.Raises other := by
  cases obsolete with
  | false =>
      obtain rfl := Except.ok.inj first
      obtain rfl := Except.ok.inj second
      exact raises
  | true =>
      obtain ⟨layer, given, made⟩ := Steps.bind_eq_ok.1 first
      obtain ⟨otherLayer, otherGiven, otherMade⟩ := Steps.bind_eq_ok.1 second
      obtain rfl := Except.ok.inj made
      obtain rfl := Except.ok.inj otherMade
      simp only [obsoleteTrie, Table.mapValues, List.map_map] at given otherGiven
      exact raises.merged (Trie.Raises.empty.insertAll
        (fun _ member => raisable.obsoleteKana.of_mem member) given otherGiven)

theorem raises_compile {obsolete : Choice} {ruleSet : ComposerRuleSet}
    (compiled : rules.compile obsolete = .ok ruleSet) :
    ruleSet.hiragana.Raises ruleSet.katakana := by
  obtain ⟨hiragana, first, compiled⟩ := Steps.bind_eq_ok.1 compiled
  obtain ⟨katakana, second, compiled⟩ := Steps.bind_eq_ok.1 compiled
  obtain ⟨spelled, given, compiled⟩ := Steps.bind_eq_ok.1 compiled
  obtain ⟨other, otherGiven, made⟩ := Steps.bind_eq_ok.1 compiled
  obtain rfl := Except.ok.inj made
  have raises := raisable.raises_scriptTrie first second
  have spelledToo := raisable.raises_spellingTrie raises given otherGiven
  exact spelledToo.freeze

end Raisable

theorem raisable_standard : Raisable standard := by
  decide +kernel

end ComposerRules
end Honji
