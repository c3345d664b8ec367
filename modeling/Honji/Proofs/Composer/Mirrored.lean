import Honji.Proofs.Composer.Siblings
import Honji.Proofs.Composer.Spelled
import Honji.Proofs.Text.SettledForms

/-!
Doubled consonants in the finished composing trie. What stands behind a consonant typed twice is
what stands behind it typed once, with the sign of doubling before it. The stage that hangs the
copies makes this so, and the stages behind it treat a node and its copy alike.
-/

namespace Honji
namespace ComposerRules
open Build
variable (rules : ComposerRules) (script : Script)

def signed (entry : Entry Text) : Entry Text :=
  ⟨script.write rules.sokuon ++ entry.token, entry.terminal⟩

def affricateHead : Symbol :=
  rules.affricateDigraph.take 1

structure Vowelless (symbol : Symbol) : Prop where
  notMarked : symbol ∉ rules.longVowelMarks.entries.map Prod.snd
  notPlain : symbol ∉ rules.longVowelSuffixes.keys

/-- Behind a copy stands what stands behind its source, but for what begins with some letters. -/
structure Mirror (apart : Symbol → Prop) (source copy : Path) (node : Node Text) : Prop where
  there : node.entryAt? source ≠ none
  same : ∀ path, (∀ symbol ∈ path.head?, ¬ apart symbol) →
    node.entryAt? (copy ++ path) = (node.entryAt? (source ++ path)).map (rules.signed script)

variable {rules script}

/-! ### Long vowels among siblings -/

section
variable {known : Symbol → Prop} {copy source : Siblings}
  (mirrored : ∀ symbol, known symbol → copy symbol = (source symbol).map (rules.signed script))
include mirrored

theorem mirrored_withMark {mark : Text × Text} (hears : known mark.2) (symbol : Symbol)
    (knows : known symbol) : rules.withMark script copy mark symbol =
      (rules.withMark script source mark symbol).map (rules.signed script) := by
  have vowel := mirrored mark.2 hears
  cases stands : source mark.2 with
  | none =>
      rw [stands, Option.map_none] at vowel
      rw [withMark_of_eq_none stands, withMark_of_eq_none vowel, mirrored symbol knows]
  | some entry =>
      rw [stands, Option.map_some] at vowel
      rw [withMark_of_eq_some stands, withMark_of_eq_some vowel, Function.update_apply,
        Function.update_apply]
      split
      · simp [signed]
      · exact mirrored symbol knows

theorem mirrored_foldl {marks : List (Text × Text)} (hears : ∀ mark ∈ marks, known mark.2)
    (symbol : Symbol) (knows : known symbol) :
    marks.foldl (rules.withMark script) copy symbol =
      (marks.foldl (rules.withMark script) source symbol).map (rules.signed script) := by
  induction marks generalizing copy source with
  | nil => exact mirrored symbol knows
  | cons mark marks ih =>
      obtain ⟨here, rest⟩ := List.forall_mem_cons.1 hears
      exact ih (mirrored_withMark mirrored here) rest

theorem mirrored_withMarks (marked : ∀ mark ∈ rules.longVowelMarks.entries, known mark.2)
    (plain : ∀ vowel ∈ rules.longVowelSuffixes.keys, known vowel) (symbol : Symbol)
    (knows : known symbol) : rules.withMarks script copy symbol =
      (rules.withMarks script source symbol).map (rules.signed script) := by
  have vowels : rules.longVowelSuffixes.keys.any (copy · |>.isSome) =
      rules.longVowelSuffixes.keys.any (source · |>.isSome) := by
    rw [Bool.eq_iff_iff, List.any_eq_true, List.any_eq_true]
    refine exists_congr fun vowel => and_congr_right fun listed => ?_
    rw [mirrored vowel (plain vowel listed), Option.isSome_map]
  rw [withMarks, withMarks, vowels]
  split
  · exact mirrored_foldl mirrored marked symbol knows
  · exact mirrored symbol knows

end

/-! ### Mirrors along the stages -/

namespace Mirror
variable {apart other : Symbol → Prop} {source copy : Path} {before after : Node Text}
  {trie built : Trie Text}

theorem copied (mirror : Mirror rules script apart source copy before) :
    before.entryAt? copy ≠ none := by
  have top := mirror.same [] (by simp)
  rw [List.append_nil, List.append_nil] at top
  rw [top, Ne, Option.map_eq_none_iff]
  exact mirror.there

theorem frame (mirror : Mirror rules script apart source copy before)
    (wider : ∀ symbol, apart symbol → other symbol)
    (still : ∀ path, (∀ symbol ∈ path.head?, ¬ other symbol) →
      after.entryAt? (source ++ path) = before.entryAt? (source ++ path) ∧
        after.entryAt? (copy ++ path) = before.entryAt? (copy ++ path)) :
    Mirror rules script other source copy after where
  there := by
    have top := (still [] (by simp)).1
    rw [List.append_nil] at top
    exact top ▸ mirror.there
  same := fun path beside => by
    obtain ⟨atSource, atCopy⟩ := still path beside
    rw [atSource, atCopy]
    exact mirror.same path fun symbol first => mt (wider symbol) (beside symbol first)

theorem of_attach {letter parent symbol : Symbol} {node : Node Text}
    (led : trie.root.child? letter = some node) (under : trie.root.child? parent ≠ none)
    (attached : trie.attach [parent] symbol
      (node.mapTokens (script.write rules.sokuon ++ ·)) = .ok built) :
    Mirror rules script (fun next => letter = parent ∧ next = symbol) [letter] [parent, symbol]
      built.root := by
  have kept (path : Path) (beside : ∀ next ∈ path.head?, ¬ (letter = parent ∧ next = symbol)) :
      built.root.entryAt? (letter :: path) = node.entryAt? path := by
    rw [Trie.entryAt?_attach_of_not_prefix attached, Node.entryAt?_cons, led, Option.bind_some]
    intro ahead
    obtain ⟨rfl, rest, rfl⟩ : parent = letter ∧ ∃ rest, path = symbol :: rest := by
      cases path <;> simp_all [List.cons_prefix_cons]
    exact beside symbol rfl ⟨rfl, rfl⟩
  refine ⟨by simp [kept [] (by simp)], fun path beside => ?_⟩
  have fresh := Node.entryAt?_eq_none_iff.1 (Trie.fresh_of_attach attached)
  have there : trie.root.find? [parent] ≠ none := by
    rw [Node.find?_cons]
    cases found : trie.root.child? parent <;> simp_all
  have hung : built.root.entryAt? ([parent] ++ [symbol] ++ path) =
      (node.mapTokens (script.write rules.sokuon ++ ·)).entryAt? path := by
    obtain ⟨-, -, rfl⟩ := Trie.attach_eq_ok.1 attached
    rw [Node.entryAt?_plant there fresh, if_pos (List.prefix_append _ _)]
    rfl
  exact (hung.trans (Node.entryAt?_mapTokens ..)).trans
    (congrArg (Option.map (rules.signed script)) (kept path beside).symm)

theorem marked (mirror : Mirror rules script apart source copy before)
    (vowelless : ∀ symbol, apart symbol → rules.Vowelless symbol)
    (marked : Marked rules script before after) : Mirror rules script apart source copy after where
  there := by
    obtain ⟨entry, stands⟩ := Option.ne_none_iff_exists'.1 mirror.there
    simp [marked.kept source entry stands]
  same := fun path beside => by
    rcases List.eq_nil_or_concat path with rfl | ⟨front, last, rfl⟩
    · obtain ⟨entry, stands⟩ := Option.ne_none_iff_exists'.1 mirror.there
      have top := mirror.same [] (by simp)
      rw [List.append_nil, List.append_nil, stands] at top
      rw [List.append_nil, List.append_nil, marked.kept source entry stands,
        marked.kept copy _ top]
      rfl
    · -- below the node itself some siblings are not mirrored, further down all of them are
      have level : ∀ symbol, (front = [] → ¬ apart symbol) →
          before.siblings (copy ++ front) symbol =
            (before.siblings (source ++ front) symbol).map (rules.signed script) := by
        intro symbol allowed
        rw [Node.siblings, Node.siblings, List.append_assoc, List.append_assoc]
        refine mirror.same _ ?_
        cases front with
        | nil => simpa using allowed rfl
        | cons first front => simpa using beside
      have lasts : front = [] → ¬ apart last := by
        rintro rfl
        simpa using beside
      have whole := mirrored_withMarks level
        (fun mark listed _ said => (vowelless mark.2 said).notMarked (List.mem_map_of_mem listed))
        (fun vowel listed _ said => (vowelless vowel said).notPlain listed) last lasts
      rw [← marked.siblings, ← marked.siblings] at whole
      simpa [Node.siblings] using whole

theorem attach_nil (mirror : Mirror rules script apart source copy trie.root)
    (filled : source ≠ []) (filledToo : copy ≠ []) {symbol : Symbol} {child : Node Text}
    (attached : trie.attach [] symbol child = .ok built) :
    Mirror rules script apart source copy built.root := by
  have still {front : Path} (filled : front ≠ []) (there : trie.root.entryAt? front ≠ none)
      (path : Path) :
      built.root.entryAt? (front ++ path) = trie.root.entryAt? (front ++ path) := by
    refine Trie.entryAt?_attach_of_not_prefix attached fun ahead => ?_
    obtain ⟨first, rest, rfl⟩ := List.exists_cons_of_ne_nil filled
    obtain rfl : symbol = first := by simpa using ahead
    exact Trie.entryAt?_of_prefix (by simp) there (Trie.fresh_of_attach attached)
  exact mirror.frame (fun _ => id) fun path _ =>
    ⟨still filled mirror.there path, still filledToo mirror.copied path⟩

end Mirror

/-! ### The stages -/

structure Keyed (trie : Trie Text) : Prop where
  caseInsensitive : trie.caseInsensitive = true
  small : ∀ symbol ∈ trie.root.keys, Text.lower symbol = symbol

namespace Keyed
variable {trie built : Trie Text}

theorem empty : Keyed (.empty true []) :=
  ⟨rfl, by simp [Trie.empty, Node.leaf, Node.keys, Branches.keys]⟩

theorem lower_eq (keyed : Keyed trie) {symbol : Symbol} {path : Path}
    (there : trie.root.entryAt? (symbol :: path) ≠ none) : Text.lower symbol = symbol := by
  refine keyed.small symbol ?_
  rw [← Node.keysAt_nil, Node.mem_keysAt_iff]
  exact Trie.entryAt?_of_prefix ⟨path, rfl⟩ there

theorem insert (keyed : Keyed trie) {letters token : Text}
    (inserted : trie.insert (Path.ofText letters) token = .ok built) : Keyed built := by
  obtain ⟨-, -, rfl⟩ := Trie.insert_eq_ok.1 inserted
  refine ⟨keyed.caseInsensitive, fun symbol member => ?_⟩
  rcases Branches.mem_keys_insert member with old | new
  · exact keyed.small symbol old
  · cases letters with
    | nil => cases new
    | cons letter letters =>
        obtain rfl : trie.normalize [letter] = symbol := by simpa [Path.ofText] using new
        rw [Trie.normalize, if_pos keyed.caseInsensitive]
        exact Text.lower_lower [letter]

theorem attach (keyed : Keyed trie) {parent symbol : Symbol} {child : Node Text}
    (attached : trie.attach [parent] symbol child = .ok built) : Keyed built := by
  obtain ⟨-, -, rfl⟩ := Trie.attach_eq_ok.1 attached
  refine ⟨keyed.caseInsensitive, fun key member => keyed.small key ?_⟩
  rwa [Node.keys, Node.plant, Branches.keys_plant_cons] at member

end Keyed

theorem keyed_addRule (letters kana : Text) : Keeps Keyed (addRule script letters kana) :=
  fun _ _ _ keyed ran => keyed.insert (of_run_insertNew ran).2

theorem keyed_addEchoes : Keeps Keyed (addEchoes script) := by
  refine Ends.change fun trie built keyed echoed => ?_
  split at echoed <;> cases echoed
  refine ⟨keyed.caseInsensitive, fun symbol member => keyed.small symbol ?_⟩
  rwa [Node.keys, Node.relabelBelow, Branches.keys_relabel] at member

/-- The letters behind a doubled consonant at which it differs from the consonant itself. -/
def Besides (rules : ComposerRules) (consonant next : Symbol) : Prop :=
  next = consonant ∨ consonant = rules.affricatePrefix ∧ next = rules.affricateHead

structure Doubled (rules : ComposerRules) (script : Script) (node : Node Text) : Prop where
  consonants : ∀ consonant ∈ rules.geminationConsonants,
    Mirror rules script (rules.Besides consonant) [consonant] [consonant, consonant] node
  affricate : Mirror rules script (fun _ => False) [rules.affricateHead]
    [rules.affricatePrefix, rules.affricateHead] node

theorem mirror_addConsonants : Ends Keyed
    (rules.geminationConsonants.forM fun consonant => do
      match (← Build.root).child? consonant with
      | none => throw (.unusableTable (.missingConsonant consonant))
      | some node => rules.addDoubled script consonant consonant node) fun _ trie =>
    Keyed trie ∧ ∀ consonant ∈ rules.geminationConsonants,
      Mirror rules script (· = consonant) [consonant] [consonant, consonant] trie.root := by
  let left (done : List Text) (trie : Trie Text) : Prop :=
    Keyed trie ∧ ∀ consonant ∈ done,
      Mirror rules script (· = consonant) [consonant] [consonant, consonant] trie.root
  have rounds : Ends (left []) (rules.geminationConsonants.forM fun consonant => do
      match (← Build.root).child? consonant with
      | none => throw (.unusableTable (.missingConsonant consonant))
      | some node => rules.addDoubled script consonant consonant node) fun _ =>
        left ([] ++ rules.geminationConsonants) := by
    refine Ends.forM left [] _ fun done consonant _ => Ends.root_eq.bind fun root => ?_
    split
    · exact Ends.throw _
    · next node led =>
      refine Ends.change fun trie built stands attached => ?_
      obtain ⟨⟨keyed, mirrors⟩, rfl⟩ := stands
      refine ⟨keyed.attach attached, List.forall_mem_append.2 ⟨fun other member => ?_, ?_⟩⟩
      · have mirror := mirrors other member
        -- a consonant that was doubled before would have been refused
        have apart : consonant ≠ other := by
          rintro rfl
          exact mirror.copied (Trie.fresh_of_attach attached)
        refine mirror.frame (fun _ => id) fun path _ => ⟨?_, ?_⟩ <;>
          refine Trie.entryAt?_attach_of_not_prefix attached fun ahead => apart ?_
        · exact (List.cons_prefix_cons.1 ahead).1
        · exact (List.cons_prefix_cons.1 ahead).1
      · have mirror := Mirror.of_attach led (by simp [led]) attached
        exact List.forall_mem_singleton.2
          (mirror.frame (fun _ both => both.2) fun _ _ => ⟨rfl, rfl⟩)
  intro trie built value keyed ran
  simpa [left] using rounds ⟨keyed, by simp⟩ ran

theorem doubled_addDoubling (apart : rules.affricateHead ≠ rules.affricatePrefix) :
    Ends Keyed (rules.addDoubling script) fun _ trie =>
      Keyed trie ∧ Doubled rules script trie.root := by
  unfold addDoubling
  refine mirror_addConsonants.bind fun _ => Ends.root_eq.bind fun root => ?_
  split
  · exact Ends.throw _
  · next first rest digraph =>
    refine Ends.root_eq.bind fun later => ?_
    split
    · next under source doubling led =>
      refine Ends.change fun trie built stands attached => ?_
      obtain ⟨⟨⟨keyed, mirrors⟩, rfl⟩, rfl⟩ := stands
      have head : [first] = rules.affricateHead := by rw [affricateHead, digraph]; rfl
      rw [head] at led attached
      refine ⟨keyed.attach attached, fun consonant member => ?_, ?_⟩
      · refine (mirrors consonant member).frame (fun _ => .inl) fun path beside => ⟨?_, ?_⟩ <;>
          refine Trie.entryAt?_attach_of_not_prefix attached fun ahead => ?_
        · obtain ⟨same, further⟩ := List.cons_prefix_cons.1 ahead
          obtain ⟨rest, rfl⟩ := further
          exact beside _ rfl (.inr ⟨same.symm, rfl⟩)
        · obtain ⟨same, further⟩ := List.cons_prefix_cons.1 ahead
          exact apart ((List.cons_prefix_cons.1 further).1.trans same.symm)
      · exact (Mirror.of_attach led (by simp [doubling]) attached).frame
          (fun _ both => apart both.1) fun _ _ => ⟨rfl, rfl⟩
    · exact Ends.throw _

namespace Doubled
variable {before after : Node Text}

theorem marked (doubled : Doubled rules script before)
    (vowelless : ∀ consonant ∈ rules.geminationConsonants, rules.Vowelless consonant)
    (head : rules.Vowelless rules.affricateHead) (marked : Marked rules script before after) :
    Doubled rules script after where
  consonants := fun consonant member => (doubled.consonants consonant member).marked
    (by rintro _ (rfl | ⟨-, rfl⟩); exacts [vowelless _ member, head]) marked
  affricate := doubled.affricate.marked (fun _ => False.elim) marked

theorem keeps_addPunctuation :
    Keeps (Doubled rules script ·.root) rules.addPunctuation :=
  Ends.forM (fun _ trie => Doubled rules script trie.root) [] _ fun _ _ _ =>
    Ends.change fun _ _ doubled added =>
      ⟨fun consonant member =>
        (doubled.consonants consonant member).attach_nil (by simp) (by simp) added,
        doubled.affricate.attach_nil (by simp) (by simp) added⟩

end Doubled

/-- What is stored and what is found behind a path are what is behind another one, doubled. -/
structure Mirrored (rules : ComposerRules) (script : Script) (trie : Trie Text)
    (apart : Symbol → Prop) (source copy : Path) : Prop where
  stored : ∀ path, (∀ symbol ∈ path.head?, ¬ apart symbol) →
    trie.root.entryAt? (copy ++ path) =
      (trie.root.entryAt? (source ++ path)).map (rules.signed script)
  found : ∀ path, (∀ symbol ∈ path.head?, ¬ apart (trie.normalize symbol)) →
    (trie.find? (copy ++ path)).map Node.entry =
      ((trie.find? (source ++ path)).map Node.entry).map (rules.signed script)

theorem Mirror.mirrored {trie : Trie Text} {apart : Symbol → Prop} {source copy : Path}
    (mirror : Mirror rules script apart source copy trie.root)
    (ownForm : source.map trie.normalize = source) (copyForm : copy.map trie.normalize = copy) :
    Mirrored rules script trie apart source copy where
  stored := mirror.same
  found := fun path beside => by
    rw [Trie.find?_map_entry, Trie.find?_map_entry, List.map_append, List.map_append, ownForm,
      copyForm]
    refine mirror.same _ ?_
    cases path with
    | nil => simp
    | cons first path => simpa using beside

theorem doubled_scriptTrie {trie : Trie Text} (built : rules.scriptTrie script = .ok trie)
    (apart : rules.affricateHead ≠ rules.affricatePrefix)
    (vowelless : ∀ consonant ∈ rules.geminationConsonants, rules.Vowelless consonant)
    (head : rules.Vowelless rules.affricateHead) :
    Doubled rules script trie.root ∧
      ∀ copy ∈ rules.doubledPaths, copy.map trie.normalize = copy := by
  have ran := build_eq_ok.1 built
  have ignores := (spelled_scriptTrie built).caseInsensitive
  obtain ⟨_, hung, hangs, rest⟩ := Steps.run_bind_eq_ok.1 ran
  obtain ⟨_, long, lengthens, marks⟩ := Steps.run_bind_eq_ok.1 rest
  obtain ⟨_, _, counted, ⟨⟩⟩ := Steps.run_bind_eq_ok.1 lengthens
  have stages : Ends Keyed (rules.buildDoubled script) fun _ trie =>
      Keyed trie ∧ Doubled rules script trie.root :=
    (rules.ends_plain script (fun _ _ => keyed_addRule _ _) keyed_addEchoes).bind fun _ =>
      doubled_addDoubling apart
  obtain ⟨keyed, doubled⟩ := stages .empty hangs
  refine ⟨Doubled.keeps_addPunctuation
    (doubled.marked vowelless head (marked_addLongVowels hung.root rfl counted)) marks, ?_⟩
  -- the letters that lead to the copies are stored as they are looked up
  have normal {symbol : Symbol} {path : Path} (there : hung.root.entryAt? (symbol :: path) ≠ none) :
      trie.normalize symbol = symbol := by
    rw [Trie.normalize, if_pos ignores, keyed.lower_eq there]
  have digraph := normal doubled.affricate.there
  simp only [affricateHead] at digraph
  simp only [doubledPaths, List.forall_mem_append, List.forall_mem_map, List.forall_mem_singleton]
  refine ⟨fun consonant member => ?_, ?_⟩
  · simp [normal (doubled.consonants consonant member).there]
  · simp [normal doubled.affricate.copied, digraph]

/--
In the finished trie of a script each consonant that can be doubled is mirrored behind the same
consonant, but for what begins with that consonant itself or belongs to the affricate; and the
affricate is mirrored behind the letter that doubles it.
-/
theorem scriptTrie_mirrored {trie : Trie Text} (built : rules.scriptTrie script = .ok trie)
    (apart : rules.affricateHead ≠ rules.affricatePrefix)
    (vowelless : ∀ consonant ∈ rules.geminationConsonants, rules.Vowelless consonant)
    (head : rules.Vowelless rules.affricateHead) :
    (∀ consonant ∈ rules.geminationConsonants, Mirrored rules script trie
      (rules.Besides consonant) [consonant] [consonant, consonant]) ∧
    Mirrored rules script trie (fun _ => False) [rules.affricateHead]
      [rules.affricatePrefix, rules.affricateHead] := by
  obtain ⟨doubled, small⟩ := doubled_scriptTrie built apart vowelless head
  refine ⟨fun consonant member => ?_, ?_⟩
  · have letters := small [consonant, consonant] (by simp [doubledPaths, member])
    exact (doubled.consonants consonant member).mirrored (List.cons.inj letters).2 letters
  · have letters := small [rules.affricatePrefix, rules.affricateHead]
      (by simp [doubledPaths, affricateHead])
    exact doubled.affricate.mirrored (List.cons.inj letters).2 letters

theorem scriptTrie_mirrored_dental :
    ∃ trie, dental.scriptTrie .hiragana = .ok trie ∧
      dental.affricateHead ≠ dental.affricatePrefix ∧
      (∀ consonant ∈ dental.geminationConsonants, dental.Vowelless consonant) ∧
      dental.Vowelless dental.affricateHead ∧
      (∀ consonant ∈ dental.geminationConsonants, Mirrored dental .hiragana trie
        (dental.Besides consonant) [consonant] [consonant, consonant]) ∧
      Mirrored dental .hiragana trie (fun _ => False) [dental.affricateHead]
        [dental.affricatePrefix, dental.affricateHead] := by
  have apart : dental.affricateHead ≠ dental.affricatePrefix := by decide
  have vowelless : ∀ consonant ∈ dental.geminationConsonants, dental.Vowelless consonant := by
    rw [show dental.geminationConsonants = ["t".toList] from rfl, List.forall_mem_singleton]
    exact ⟨by decide +kernel, by decide +kernel⟩
  have head : dental.Vowelless dental.affricateHead := ⟨by decide +kernel, by decide +kernel⟩
  have known : (dental.scriptTrie .hiragana).isOk = true := by decide +kernel
  cases built : dental.scriptTrie .hiragana with
  | error failure => simp [built, Except.isOk, Except.toBool] at known
  | ok trie =>
      exact ⟨trie, rfl, apart, vowelless, head, scriptTrie_mirrored built apart vowelless head⟩

end ComposerRules
end Honji
