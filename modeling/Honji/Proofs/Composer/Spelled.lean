import Honji.Proofs.Composer.Lockstep
import Honji.Proofs.Kana
import Honji.Proofs.Trie.Ending

/-!
What the composing trie of a script holds once it was built, whatever the tables: every rule that
they spell out with exactly its kana, every punctuation mark, and the letters typed so far wherever
more are waited for. The stages that come after the rules only add to them.
-/

namespace Honji
open Build

def Path.lowered (letters : Text) : Path :=
  (Path.ofText letters).map Text.lower

theorem Trie.map_normalize {trie : Trie Text} (ignores : trie.caseInsensitive = true)
    (path : Path) : path.map trie.normalize = path.map Text.lower :=
  List.map_congr_left fun symbol _ => by rw [normalize, if_pos ignores]

namespace ComposerRules

/-! ### The rules that the tables spell out -/

def rowRules (consonant row : Text) : List (Text × Text) :=
  (vowelOrder.zip row).map fun (vowel, kana) => (consonant ++ [vowel], [kana])

def beginningRules (beginning : Text) (row : Table Text Text) : List (Text × Text) :=
  row.entries.map fun (vowel, kana) => (beginning ++ vowel, kana)

def contractionRules (glides : Table Text Text) (consonant base : Text) : List (Text × Text) :=
  glides.entries.map fun (vowel, glide) => (consonant ++ 'y' :: vowel, base ++ glide)

def syllableRules (rules : ComposerRules) : List (Text × Text) :=
  rules.vowels.entries ++
    (rules.consonantRows.entries.flatMap (fun (consonant, row) => rowRules consonant row) ++
      (rules.irregularRows.entries.flatMap (fun (beginning, row) => beginningRules beginning row) ++
        (rules.smallPrefixes.flatMap (beginningRules · rules.smallKana) ++
          ([(rules.nasal, rules.nasalKana)] ++
            [(rules.nasal ++ [Char.ofNat 0x27], rules.nasalKana)]))))

def typedRules (rules : ComposerRules) : List (Text × Text) :=
  rules.syllableRules ++ rules.contractionConsonants.entries.flatMap fun (consonant, base) =>
    contractionRules rules.contractionGlides consonant base

def doubledPaths (rules : ComposerRules) : List Path :=
  rules.geminationConsonants.map (fun consonant => [consonant, consonant]) ++
    [[rules.affricatePrefix, rules.affricateDigraph.take 1]]

/-- A trie in which letters were given kana, and other letters wait for more. -/
structure Spelled (script : Script) (typed : List (Text × Text)) (shown : Path → Text)
    (doubled : List Path) (trie : Trie Text) : Prop where
  caseInsensitive : trie.caseInsensitive = true
  placeholder : trie.placeholder = []
  distinct : (typed.map fun rule => Path.lowered rule.1).Nodup
  ruled : ∀ rule ∈ typed,
    trie.root.entryAt? (Path.lowered rule.1) = some ⟨script.write rule.2, true⟩
  waiting : ∀ path entry, trie.root.entryAt? path = some entry → entry.terminal.taken = false →
    (∀ copy ∈ doubled, ¬ copy <+: path) → entry.token = shown path

namespace Spelled
variable {script : Script} {typed : List (Text × Text)} {shown : Path → Text}
  {doubled : List Path} {trie built : Trie Text}

theorem map_normalize (spelled : Spelled script typed shown doubled trie) (letters : Text) :
    (Path.ofText letters).map trie.normalize = Path.lowered letters :=
  Trie.map_normalize spelled.caseInsensitive _

theorem find?_ofText (spelled : Spelled script typed shown doubled trie) (letters : Text) :
    trie.find? (Path.ofText letters) = trie.root.find? (Path.lowered letters) := by
  rw [Trie.find?_eq_find?_map, spelled.map_normalize]

theorem empty (script : Script) : Spelled script [] (fun _ => []) [] (.empty true []) where
  caseInsensitive := rfl
  placeholder := rfl
  distinct := .nil
  ruled := by simp
  waiting := by
    rintro (_ | ⟨symbol, path⟩) entry found -
    · cases found
      exact fun _ => rfl
    · cases found

theorem weaken {others : List Path} (spelled : Spelled script typed shown doubled trie)
    (fewer : ∀ copy ∈ doubled, copy ∈ others) : Spelled script typed shown others trie :=
  { spelled with
    waiting := fun path entry found waits apart =>
      spelled.waiting path entry found waits fun copy member => apart copy (fewer copy member) }

theorem insertNew {letters kana : Text} (spelled : Spelled script typed (fun _ => []) [] trie)
    (ran : Steps.run (addRule script letters kana) trie = (.ok (), built)) :
    Spelled script (typed ++ [(letters, kana)]) (fun _ => []) [] built := by
  obtain ⟨unruled, inserted⟩ := of_run_insertNew ran
  obtain ⟨filled, -, rfl⟩ := Trie.insert_eq_ok.1 inserted
  rw [spelled.find?_ofText] at unruled
  rw [spelled.map_normalize]
  have nonempty : Path.lowered letters ≠ [] := by simpa [Path.lowered] using filled
  have apart : ∀ rule ∈ typed, Path.lowered rule.1 ≠ Path.lowered letters := by
    intro rule member same
    have stands := spelled.ruled rule member
    rw [same] at stands
    obtain ⟨node, found, entry⟩ := Option.map_eq_some_iff.1 stands
    rw [found, Option.any_some, entry] at unruled
    cases unruled
  refine ⟨spelled.caseInsensitive, spelled.placeholder, ?_, fun rule member => ?_,
    fun path entry found waits _ => ?_⟩
  · rw [List.map_append]
    refine List.nodup_append.2 ⟨spelled.distinct, by simp, ?_⟩
    rintro _ member other single same
    obtain ⟨rule, before, rfl⟩ := List.mem_map.1 member
    exact apart rule before (same.trans (by simpa using single))
  · rw [Node.entryAt?_insert _ _ _ nonempty]
    rcases List.mem_append.1 member with before | new
    · rw [if_neg (apart rule before), spelled.ruled rule before]
      rfl
    · rw [List.mem_singleton.1 new, if_pos rfl]
  · rw [Node.entryAt?_insert _ _ _ nonempty] at found
    split at found
    · cases found
      cases waits
    · cases before : trie.root.entryAt? path with
      | some old =>
          rw [before] at found
          cases found
          exact spelled.waiting path entry before waits (by simp)
      | none =>
          rw [before] at found
          split at found <;> cases found
          exact spelled.placeholder

theorem addEchoes (spelled : Spelled script typed (fun _ => []) [] trie)
    (ran : Steps.run (addEchoes script) trie = (.ok (), built)) :
    Spelled script typed (fun path => echo script path.joined) [] built := by
  have echoed := run_change_eq_ok.1 ran
  split at echoed <;> cases echoed
  refine ⟨spelled.caseInsensitive, spelled.placeholder, spelled.distinct, fun rule member => ?_,
    fun path entry found waiting _ => ?_⟩
  · have stands := spelled.ruled rule member
    by_cases filled : Path.lowered rule.1 = []
    · rw [filled] at stands ⊢
      exact stands
    · rw [Node.entryAt?_relabelBelow _ _ filled, stands]
      rfl
  · by_cases filled : path = []
    · subst filled
      have blank := spelled.waiting [] entry found waiting (by simp)
      rw [blank]
      cases script <;> rfl
    · rw [Node.entryAt?_relabelBelow _ _ filled] at found
      obtain ⟨old, before, rfl⟩ := Option.map_eq_some_iff.1 found
      have blank : old.token = [] := spelled.waiting path old before waiting (by simp)
      have waits : waits old = true := by
        rw [ComposerRules.waits, blank]
        simpa using waiting
      rw [if_pos waits]

theorem attach {parent symbol : Symbol} {child : Node Text}
    (spelled : Spelled script typed shown doubled trie) (copy : [parent, symbol] ∈ doubled)
    (attached : trie.attach [parent] symbol child = .ok built) :
    Spelled script typed shown doubled built := by
  obtain ⟨-, -, rfl⟩ := Trie.attach_eq_ok.1 attached
  refine ⟨spelled.caseInsensitive, spelled.placeholder, spelled.distinct, fun rule member =>
    Trie.entryAt?_kept_of_attach attached (spelled.ruled rule member),
    fun path entry found waits apart => ?_⟩
  rcases Trie.entryAt?_of_attach attached path with same | ⟨under, -, -⟩
  · exact spelled.waiting path entry (same ▸ found) waits apart
  · exact absurd under (apart _ copy)

theorem add {path : Path} {symbol : Symbol} {token : Text}
    (spelled : Spelled script typed shown doubled trie)
    (added : trie.add path symbol token = .ok built) :
    Spelled script typed shown doubled built := by
  obtain ⟨-, -, rfl⟩ := Trie.attach_eq_ok.1 added
  refine ⟨spelled.caseInsensitive, spelled.placeholder, spelled.distinct, fun rule member =>
    Trie.entryAt?_kept_of_attach added (spelled.ruled rule member),
    fun query entry found waits apart => ?_⟩
  rcases Trie.entryAt?_of_attach added query with same | ⟨⟨rest, rfl⟩, -, leaf⟩
  · exact spelled.waiting query entry (same ▸ found) waits apart
  · rw [leaf] at found
    cases rest with
    | nil =>
        have ends : (⟨token, true⟩ : Entry Text) = entry := by simpa [Node.leaf] using found
        rw [← ends] at waits
        cases waits
    | cons next rest => simp [Node.entryAt?_cons] at found

end Spelled

/-! ### The stages -/

/--
Steps that put in rules, one after another. What they leave is known as soon as it is known what a
single rule adds to what the rules before it left.
-/
def PutsIn (script : Script) (ruled : List (Text × Text)) (steps : Build Unit) : Prop :=
  ∀ (left : List (Text × Text) → Trie Text → Prop) (done : List (Text × Text)),
    (∀ done, ∀ rule ∈ ruled,
      Ends (left done) (addRule script rule.1 rule.2) fun _ => left (done ++ [rule])) →
    Ends (left done) steps fun _ => left (done ++ ruled)

namespace PutsIn
variable {ι : Type} {script : Script} {ruled others : List (Text × Text)} {steps : Build Unit}

theorem addRule (script : Script) (letters kana : Text) :
    PutsIn script [(letters, kana)] (addRule script letters kana) :=
  fun _ done each => each done (letters, kana) (List.mem_singleton_self _)

theorem andThen {first next : Build Unit} (puts : PutsIn script ruled first)
    (goesOn : PutsIn script others next) :
    PutsIn script (ruled ++ others) (first >>= fun _ => next) := by
  intro left done each
  obtain ⟨ahead, behind⟩ := forall_and.1 fun done => List.forall_mem_append.1 (each done)
  rw [← List.append_assoc]
  exact (puts left done ahead).bind fun _ => goesOn left _ behind

theorem forM {step : ι → Build Unit} {ruled : ι → List (Text × Text)} (items : List ι)
    (each : ∀ item ∈ items, PutsIn script (ruled item) (step item)) :
    PutsIn script (items.flatMap ruled) (items.forM step) := by
  intro left before single
  let reached (done : List ι) := left (before ++ done.flatMap ruled)
  have rounds : Ends (reached []) (items.forM step) fun _ => reached ([] ++ items) :=
    Ends.forM reached [] items fun done item member => by
      simp only [reached]
      rw [List.flatMap_append, List.flatMap_singleton, ← List.append_assoc]
      exact each item member left _ fun done rule inside =>
        single done rule (List.mem_flatMap.2 ⟨item, member, inside⟩)
  simpa [reached] using rounds

theorem forM_addRule (script : Script) (items : List ι) (rule : ι → Text × Text) :
    PutsIn script (items.map rule)
      (items.forM fun item => ComposerRules.addRule script (rule item).1 (rule item).2) := by
  rw [List.map_eq_flatMap]
  exact forM items fun item _ => addRule script (rule item).1 (rule item).2

theorem keeps {kept : Trie Text → Prop} (puts : PutsIn script ruled steps)
    (each : ∀ rule ∈ ruled, Keeps kept (ComposerRules.addRule script rule.1 rule.2)) :
    Keeps kept steps :=
  puts (fun _ => kept) [] fun _ => each

end PutsIn

def Types (script : Script) (ruled : List (Text × Text)) (steps : Build Unit) : Prop :=
  ∀ typed, Ends (Spelled script typed (fun _ => []) []) steps fun _ =>
    Spelled script (typed ++ ruled) (fun _ => []) []

theorem PutsIn.types {script : Script} {ruled : List (Text × Text)} {steps : Build Unit}
    (puts : PutsIn script ruled steps) : Types script ruled steps :=
  fun typed => puts (fun done => Spelled script done (fun _ => []) []) typed
    fun _ _ _ _ _ _ spelled ran => spelled.insertNew ran

variable (rules : ComposerRules) (script : Script)

theorem putsIn_addRow (consonant row : Text) :
    PutsIn script (rowRules consonant row) (addRow script consonant row) := by
  unfold addRow
  split
  · exact fun _ _ _ => Ends.throw _
  · exact PutsIn.forM_addRule script (vowelOrder.zip row) fun (vowel, kana) =>
      (consonant ++ [vowel], [kana])

theorem putsIn_beginning (beginning : Text) (row : Table Text Text) :
    PutsIn script (beginningRules beginning row)
      (row.entries.forM fun (vowel, kana) => addRule script (beginning ++ vowel) kana) :=
  PutsIn.forM_addRule script row.entries fun (vowel, kana) => (beginning ++ vowel, kana)

theorem putsIn_contraction (consonant base : Text) :
    PutsIn script (contractionRules rules.contractionGlides consonant base)
      (rules.contractionGlides.entries.forM fun (vowel, glide) =>
        addRule script (consonant ++ 'y' :: vowel) (base ++ glide)) :=
  PutsIn.forM_addRule script rules.contractionGlides.entries fun (vowel, glide) =>
    (consonant ++ 'y' :: vowel, base ++ glide)

theorem putsIn_addSyllables : PutsIn script rules.syllableRules (rules.addSyllables script) := by
  have vowels : PutsIn script rules.vowels.entries
      (rules.vowels.entries.forM fun (vowel, kana) => addRule script vowel kana) := by
    simpa using PutsIn.forM_addRule script rules.vowels.entries id
  unfold addSyllables
  refine vowels.andThen ?_
  refine (PutsIn.forM _ fun entry _ => putsIn_addRow script entry.1 entry.2).andThen ?_
  refine (PutsIn.forM _ fun entry _ => putsIn_beginning script entry.1 entry.2).andThen ?_
  refine (PutsIn.forM _ fun mark _ => putsIn_beginning script mark rules.smallKana).andThen ?_
  exact PutsIn.andThen (PutsIn.addRule _ _ _) (PutsIn.addRule _ _ _)

theorem putsIn_addContractions :
    PutsIn script (rules.contractionConsonants.entries.flatMap fun (consonant, base) =>
      contractionRules rules.contractionGlides consonant base) (rules.addContractions script) :=
  PutsIn.forM _ fun entry _ => putsIn_contraction rules script entry.1 entry.2

theorem ends_plain {kept : Trie Text → Prop} {after : Unit → Trie Text → Prop}
    (each : ∀ rule ∈ rules.typedRules, Keeps kept (addRule script rule.1 rule.2))
    (echoes : Ends kept (addEchoes script) after) : Ends kept (rules.buildPlain script) after := by
  obtain ⟨syllables, contractions⟩ := List.forall_mem_append.1 each
  exact ((rules.putsIn_addSyllables script).keeps syllables).bind fun _ =>
    ((rules.putsIn_addContractions script).keeps contractions).bind fun _ => echoes

theorem keeps_doubling {kept : Trie Text → Prop}
    (each : ∀ parent letter source, [parent, letter] ∈ rules.doubledPaths →
      Ends (fun trie => kept trie ∧ trie.root.child? letter = some source ∧
          trie.root.child? parent ≠ none)
        (rules.addDoubled script parent letter source) fun _ => kept) :
    Keeps kept (rules.addDoubling script) := by
  unfold addDoubling
  refine Ends.bind (Ends.forM (fun _ => kept) [] _ fun _ consonant member => ?_) fun _ => ?_
  · refine Ends.root_eq.bind fun root => ?_
    split
    · exact Ends.throw _
    · next node led =>
      rintro trie built _ ⟨holds, rfl⟩ ran
      exact each consonant consonant node (by simp [doubledPaths, member])
        ⟨holds, led, by simp [led]⟩ ran
  · refine Ends.root_eq.bind fun root => ?_
    split
    · exact Ends.throw _
    · next first rest digraph =>
      refine Ends.root_eq.bind fun later => ?_
      split
      · next under source doubling led =>
        rintro trie built _ ⟨⟨holds, rfl⟩, rfl⟩ ran
        exact each rules.affricatePrefix [first] source (by simp [doubledPaths, digraph])
          ⟨holds, led, by simp [doubling]⟩ ran
      · exact Ends.throw _

theorem keeps_longVowels {kept : Trie Text → Prop}
    (each : ∀ path, ∀ mark ∈ rules.longVowelMarks.entries, ∀ trie built node ending,
      kept trie → trie.root.find? (path ++ [mark.2]) = some node →
      rules.prolongation script mark.2 = .ok ending →
      trie.add path mark.1 (node.entry.token ++ ending) = .ok built → kept built) :
    Keeps kept (rules.addLongVowels script) := by
  have single (path : Path) (mark : Text × Text) (listed : mark ∈ rules.longVowelMarks.entries) :
      Keeps kept (rules.addLongVowel script path mark.1 mark.2) := by
    unfold addLongVowel
    refine Ends.root_eq.bind fun root => ?_
    split
    · exact (Ends.pure 0).imp fun _ _ left => left.1
    · next node found =>
      refine (Ends.lift_eq _).bind fun ending => Ends.bind (Ends.change ?_) fun _ => Ends.pure 1
      rintro trie built ⟨⟨holds, rfl⟩, prolonged⟩ added
      exact each path mark listed trie built node ending holds found prolonged added
  unfold addLongVowels
  refine Ends.root.bind fun node => (Ends.mapM _ fun path _ => ?_).bind fun _ => Ends.pure _
  exact (Ends.mapM _ (single path)).bind fun _ => Ends.pure _

theorem ends_buildPlain : Ends (Spelled script [] (fun _ => []) []) (rules.buildPlain script)
    fun _ => Spelled script rules.typedRules (fun path => echo script path.joined) [] :=
  ((rules.putsIn_addSyllables script).types []).bind fun _ =>
    ((rules.putsIn_addContractions script).types _).bind fun _ _ _ _ spelled ran =>
      spelled.addEchoes ran

theorem keeps_addDoubling {typed : List (Text × Text)} {shown : Path → Text} :
    Keeps (Spelled script typed shown rules.doubledPaths) (rules.addDoubling script) :=
  keeps_doubling rules script fun _ _ _ copy =>
    Ends.change fun _ _ stands attached => stands.1.attach copy attached

theorem keeps_addLongVowels {typed : List (Text × Text)} {shown : Path → Text}
    {doubled : List Path} :
    Keeps (Spelled script typed shown doubled) (rules.addLongVowels script) :=
  keeps_longVowels rules script fun _ _ _ _ _ _ _ spelled _ _ added => spelled.add added

theorem ends_addPunctuation {typed : List (Text × Text)} {shown : Path → Text}
    {doubled : List Path} :
    Ends (Spelled script typed shown doubled) rules.addPunctuation fun _ trie =>
      Spelled script typed shown doubled trie ∧
        ∀ mark ∈ rules.punctuation.entries, trie.root.entryAt? [mark.1] = some ⟨mark.2, true⟩ := by
  let left (done : List (Text × Text)) (trie : Trie Text) :=
    Spelled script typed shown doubled trie ∧
      ∀ mark ∈ done, trie.root.entryAt? [mark.1] = some ⟨mark.2, true⟩
  have rounds : Ends (left []) rules.addPunctuation
      fun _ => left ([] ++ rules.punctuation.entries) :=
    Ends.forM left [] _ fun done mark _ => Ends.change fun trie built holds added => by
      refine ⟨holds.1.add added, fun other member => ?_⟩
      rcases List.mem_append.1 member with before | new
      · exact Trie.entryAt?_kept_of_attach added (holds.2 other before)
      · rw [List.mem_singleton.1 new]
        exact Trie.entryAt?_of_add added
  exact fun trie built value spelled ran => rounds ⟨spelled, by simp⟩ ran

theorem ends_buildScript : Ends (Spelled script [] (fun _ => []) []) (rules.buildScript script)
    fun _ trie =>
      Spelled script rules.typedRules (fun path => echo script path.joined)
          rules.doubledPaths trie ∧
        ∀ mark ∈ rules.punctuation.entries, trie.root.entryAt? [mark.1] = some ⟨mark.2, true⟩ := by
  have doubled : Ends (Spelled script [] (fun _ => []) []) (rules.buildDoubled script) fun _ =>
      Spelled script rules.typedRules (fun path => echo script path.joined) rules.doubledPaths :=
    (rules.ends_buildPlain script).bind fun _ _ _ _ spelled ran =>
      rules.keeps_addDoubling script (spelled.weaken (by simp)) ran
  exact doubled.bind fun _ => (rules.keeps_addLongVowels script).discard.bind fun _ =>
    rules.ends_addPunctuation script

variable {rules script} in
theorem spelled_scriptTrie {trie : Trie Text} (built : rules.scriptTrie script = .ok trie) :
    Spelled script rules.typedRules (fun path => echo script path.joined) rules.doubledPaths trie :=
  (rules.ends_buildScript script (.empty script) (build_eq_ok.1 built)).1

/--
A composing trie that lost no rule. The rules that the tables spell out take different paths, and at
the end of each the trie has exactly its kana; each punctuation mark is found; and a node at which
no rule ends repeats the letters that lead to it, unless it lies in a copy for doubled letters.
-/
structure Lossless (rules : ComposerRules) (script : Script) (trie : Trie Text) : Prop where
  distinct : (rules.typedRules.map fun rule => Path.lowered rule.1).Nodup
  ruled : ∀ rule ∈ rules.typedRules,
    (trie.root.find? (Path.lowered rule.1)).map Node.entry = some ⟨script.write rule.2, true⟩
  reached : ∀ letters, trie.find? (Path.ofText letters) = trie.root.find? (Path.lowered letters)
  marked : ∀ mark ∈ rules.punctuation.entries,
    (trie.find? (Path.ofText mark.1)).map Node.entry = some ⟨mark.2, true⟩
  waiting : ∀ path node, trie.root.find? path = some node → node.entry.terminal.taken = false →
    (∀ copy ∈ rules.doubledPaths, ¬ copy <+: path) →
    node.entry.token = match script with
      | .hiragana => path.joined
      | .katakana => path.joined.upper

/--
Building the trie of a script from any tables loses and overwrites no rule, if it does not fail and
every punctuation mark is a single symbol without a small form of its own.
-/
theorem lossless_scriptTrie {rules : ComposerRules} {script : Script} {trie : Trie Text}
    (single : ∀ mark ∈ rules.punctuation.keys, mark.length = 1 ∧ Text.lower mark = mark)
    (built : rules.scriptTrie script = .ok trie) : rules.Lossless script trie := by
  obtain ⟨spelled, marked⟩ := rules.ends_buildScript script (.empty script) (build_eq_ok.1 built)
  refine ⟨spelled.distinct, spelled.ruled, spelled.find?_ofText, fun mark member => ?_,
    fun path node found waits apart => ?_⟩
  · obtain ⟨one, small⟩ := single mark.1 (List.mem_map_of_mem member)
    have key : Path.lowered mark.1 = [mark.1] := by
      obtain ⟨character, key⟩ := List.length_eq_one_iff.1 one
      rw [key] at small ⊢
      rw [Path.lowered, Path.ofText, List.map_singleton, List.map_singleton, small]
    rw [spelled.find?_ofText, key]
    exact marked mark member
  · have entry : trie.root.entryAt? path = some node.entry :=
      Option.map_eq_some_iff.2 ⟨node, found, rfl⟩
    rw [spelled.waiting path node.entry entry waits apart]
    cases script <;> rfl

theorem lossless_scriptTrie_dental :
    (∀ mark ∈ dental.punctuation.keys, mark.length = 1 ∧ Text.lower mark = mark) ∧
      ∃ trie, dental.scriptTrie .katakana = .ok trie ∧ dental.Lossless .katakana trie := by
  have single : ∀ mark ∈ dental.punctuation.keys, mark.length = 1 ∧ Text.lower mark = mark := by
    decide +kernel
  have known : (dental.scriptTrie .katakana).isOk = true := by decide +kernel
  refine ⟨single, ?_⟩
  cases outcome : dental.scriptTrie .katakana with
  | error failure => simp [outcome, Except.isOk, Except.toBool] at known
  | ok trie => exact ⟨trie, rfl, lossless_scriptTrie single outcome⟩

end ComposerRules
end Honji
