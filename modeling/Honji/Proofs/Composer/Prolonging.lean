import Honji.Proofs.Composer.Siblings
import Honji.Proofs.Composer.Spelled
import Honji.Proofs.Text.SettledForms
import Honji.Proofs.Trie.Leaves

/-!
Where the long vowels of the composing trie land. The stage reads off the trie below which nodes
vowels stand, and then adds leaves next to the vowels; no mark is a vowel of another mark, so what
it adds is never prolonged in turn, and no leaf is refused because another one was added.
-/

namespace Honji
namespace ComposerRules
open Build
variable (rules : ComposerRules) (script : Script)

/-! ### Symbols as they are looked up -/

structure Lowered (trie : Trie Text) : Prop where
  caseInsensitive : trie.caseInsensitive = true
  small : ∀ path, trie.root.entryAt? path ≠ none → path.map Text.lower = path

namespace Lowered
variable {trie built : Trie Text}

theorem empty : Lowered (.empty true []) := by
  refine ⟨rfl, fun path there => ?_⟩
  cases path with
  | nil => rfl
  | cons symbol path => exact absurd rfl there

theorem map_normalize (lowered : Lowered trie) (path : Path) :
    path.map trie.normalize = path.map Text.lower :=
  Trie.map_normalize lowered.caseInsensitive path

theorem get_eq (lowered : Lowered trie) {path : Path} (filled : path ≠ []) {entry : Entry Text}
    (stands : trie.root.entryAt? path = some entry) (default : Text) :
    trie.get path default = entry.token := by
  have small := lowered.small path (by simp [stands])
  rw [Trie.get_eq trie filled, lowered.map_normalize, small, stands]
  rfl

theorem insert (lowered : Lowered trie) {letters token : Text}
    (inserted : trie.insert (Path.ofText letters) token = .ok built) : Lowered built := by
  obtain ⟨filled, -, rfl⟩ := Trie.insert_eq_ok.1 inserted
  have written : (Path.ofText letters).map trie.normalize = Path.lowered letters :=
    lowered.map_normalize _
  have small : (Path.lowered letters).map Text.lower = Path.lowered letters := by
    simp [Path.lowered, Path.ofText, Text.lower_lower]
  refine ⟨lowered.caseInsensitive, fun path there => ?_⟩
  rw [Node.entryAt?_insert _ _ _ (by simpa using filled), written] at there
  by_cases before : trie.root.entryAt? path = none
  · obtain ⟨rest, whole⟩ : path <+: Path.lowered letters := by
      by_contra apart
      have other : path ≠ Path.lowered letters := by
        rintro rfl
        exact apart List.prefix_rfl
      rw [if_neg other, before, if_neg apart] at there
      exact there rfl
    rw [← whole, List.map_append] at small
    exact (List.append_inj small (by simp)).1
  · exact lowered.small path before

theorem addDoubled (lowered : Lowered trie) {parent letter : Symbol} {source : Node Text}
    (led : trie.root.child? letter = some source) (under : trie.root.child? parent ≠ none)
    (attached : trie.attach [parent] letter
      (source.mapTokens (script.write rules.sokuon ++ ·)) = .ok built) : Lowered built := by
  have ignores : built.caseInsensitive = true := by
    obtain ⟨-, -, rfl⟩ := Trie.attach_eq_ok.1 attached
    exact lowered.caseInsensitive
  refine ⟨ignores, fun path there => ?_⟩
  rcases Trie.entryAt?_of_attach attached path with same | ⟨⟨rest, rfl⟩, -, copied⟩
  · exact lowered.small path (same ▸ there)
  · obtain ⟨node, found⟩ := Option.ne_none_iff_exists'.1 under
    have above := lowered.small [parent] (by simp [Node.entryAt?_cons, found])
    have below : source.entryAt? rest ≠ none := by
      intro missing
      refine there (copied.trans ?_)
      simp [Node.entryAt?_mapTokens, missing]
    have behind := lowered.small (letter :: rest) (by
      rwa [Node.entryAt?_cons, led])
    simpa using And.intro above behind

end Lowered

theorem keeps_lowered_addRule (letters kana : Text) : Keeps Lowered (addRule script letters kana) :=
  fun _ _ _ lowered ran => lowered.insert (of_run_insertNew ran).2

theorem keeps_lowered_addEchoes : Keeps Lowered (addEchoes script) := by
  refine Ends.change fun trie built lowered echoed => ?_
  split at echoed <;> cases echoed
  refine ⟨lowered.caseInsensitive, fun path there => ?_⟩
  by_cases filled : path = []
  · simp [filled]
  · rw [Node.entryAt?_relabelBelow _ _ filled, Ne, Option.map_eq_none_iff] at there
    exact lowered.small path there

theorem lowered_buildDoubled {trie : Trie Text}
    (built : (rules.buildDoubled script).build (.empty true []) = .ok trie) : Lowered trie := by
  have stages : Keeps Lowered (rules.buildDoubled script) :=
    (rules.ends_plain script (fun rule _ => keeps_lowered_addRule script rule.1 rule.2)
      (keeps_lowered_addEchoes script)).bind fun _ =>
        rules.keeps_doubling script fun parent letter source _ =>
          Ends.change fun _ _ stands attached =>
            stands.1.addDoubled rules script stands.2.1 stands.2.2 attached
  exact stages .empty (build_eq_ok.1 built)

/-! ### The stage -/

variable {rules script}

structure Prolongs (rules : ComposerRules) (root : Node Text) (parent : Path)
    (mark vowel : Symbol) : Prop where
  target : ∃ plain ∈ rules.longVowelSuffixes.keys, plain ∈ root.keysAt parent
  listed : (mark, vowel) ∈ rules.longVowelMarks.entries
  stands : vowel ∈ root.keysAt parent

def longVowelLeaf? (rules : ComposerRules) (script : Script) (root : Node Text) (parent : Path)
    (mark : Text × Text) : Option (Leaf Text) :=
  (root.entryAt? (parent ++ [mark.2])).map fun vowel =>
    ⟨parent, mark.1, vowel.token ++ rules.endingOf script mark.2⟩

def longVowelLeaves (rules : ComposerRules) (script : Script) (root : Node Text) :
    List (Leaf Text) :=
  (rules.prolongable root).flatMap fun parent => rules.longVowelMarks.entries.flatMap fun mark =>
    (rules.longVowelLeaf? script root parent mark).toList

def Lengthened (rules : ComposerRules) (script : Script) (before : Node Text)
    (leaves : List (Leaf Text)) (reached : Trie Text) : Prop :=
  Node.Leafed leaves before reached.root ∧ ∀ leaf ∈ leaves, ∃ vowel ending,
    (leaf.symbol, vowel) ∈ rules.longVowelMarks.entries ∧
      rules.prolongation script vowel = .ok ending

section
variable (unlike : ∀ mark ∈ rules.longVowelMarks.entries,
  ∀ other ∈ rules.longVowelMarks.entries, mark.1 ≠ other.2)
include unlike

theorem ends_addLongVowel (before : Node Text) (leaves : List (Leaf Text)) (parent : Path)
    {mark : Text × Text} (listed : mark ∈ rules.longVowelMarks.entries) :
    Ends (Lengthened rules script before leaves)
      (rules.addLongVowel script parent mark.1 mark.2) fun count trie =>
        Lengthened rules script before
            (leaves ++ (rules.longVowelLeaf? script before parent mark).toList) trie ∧
          count = (rules.longVowelLeaf? script before parent mark).toList.length := by
  refine Ends.root_eq.bind fun root trie built count start ran => ?_
  obtain ⟨⟨leafed, spoken⟩, rfl⟩ := start
  -- no leaf so far ends in a vowel, so the vowel stands here if it stood here before
  have same : trie.root.entryAt? (parent ++ [mark.2]) = before.entryAt? (parent ++ [mark.2]) := by
    refine leafed.others _ fun member => ?_
    obtain ⟨leaf, also, ends⟩ := List.mem_map.1 member
    obtain ⟨vowel, -, known, -⟩ := spoken leaf also
    have last : leaf.symbol = mark.2 := List.singleton_inj.1 (List.append_inj' ends rfl).2
    exact unlike _ known mark listed last
  rw [longVowelLeaf?, ← same]
  split at ran
  · next missing =>
    cases ran
    have absent : trie.root.entryAt? (parent ++ [mark.2]) = none :=
      Node.entryAt?_eq_none_iff.2 missing
    rw [absent, Option.map_none, Option.toList_none, List.append_nil]
    exact ⟨⟨leafed, spoken⟩, rfl⟩
  · next vowel found =>
    obtain ⟨ending, _, lifted, rest⟩ := Steps.run_bind_eq_ok.1 ran
    obtain ⟨said, rfl⟩ := Prod.mk.inj ((Steps.run_lift _ _).symm.trans lifted)
    obtain ⟨_, between, ranOn, ⟨⟩⟩ := Steps.run_bind_eq_ok.1 rest
    have stands : trie.root.entryAt? (parent ++ [mark.2]) = some vowel.entry :=
      Option.map_eq_some_iff.2 ⟨vowel, found, rfl⟩
    have there : before.entryAt? parent ≠ none :=
      Trie.entryAt?_of_prefix (List.prefix_append parent [mark.2]) (by simp [← same, stands])
    have ends : rules.endingOf script mark.2 = ending := by rw [endingOf, said]
    rw [stands, Option.map_some, Option.toList_some, ends]
    refine ⟨⟨leafed.snoc there (run_change_eq_ok.1 ranOn), List.forall_mem_append.2
      ⟨spoken, List.forall_mem_singleton.2 ⟨mark.2, ending, listed, said⟩⟩⟩, rfl⟩

theorem ends_addLongVowels (before : Node Text) :
    Ends (·.root = before) (rules.addLongVowels script) fun count trie =>
      Lengthened rules script before (rules.longVowelLeaves script before) trie ∧
        count = (rules.longVowelLeaves script before).length := by
  refine Ends.root_eq.bind fun root trie built count start ran => ?_
  obtain ⟨rfl, rfl⟩ := start
  refine Ends.mapM_count _ (Lengthened rules script trie.root) [] _ (fun done parent _ => ?_)
    ⟨.refl _, by simp⟩ ran
  exact Ends.mapM_count _ (Lengthened rules script trie.root) done _ fun leaves mark listed =>
    ends_addLongVowel unlike trie.root leaves parent listed

end

/-! ### What the stage leaves -/

theorem mem_prolongable_iff_keysAt {root : Node Text} {path : Path} :
    path ∈ rules.prolongable root ↔
      ∃ plain ∈ rules.longVowelSuffixes.keys, plain ∈ root.keysAt path := by
  rw [mem_prolongable_iff, List.any_eq_true]
  refine exists_congr fun plain => and_congr_right fun _ => ?_
  rw [Option.isSome_iff_ne_none, Node.mem_keysAt_iff]
  rfl

theorem mem_longVowelLeaves_iff {root : Node Text} {leaf : Leaf Text} :
    leaf ∈ rules.longVowelLeaves script root ↔ ∃ vowel entry,
      Prolongs rules root leaf.parent leaf.symbol vowel ∧
        root.entryAt? (leaf.parent ++ [vowel]) = some entry ∧
        leaf.token = entry.token ++ rules.endingOf script vowel := by
  simp only [longVowelLeaves, longVowelLeaf?, List.mem_flatMap, Option.mem_toList,
    Option.map_eq_some_iff]
  constructor
  · rintro ⟨parent, target, ⟨mark, vowel⟩, listed, entry, stands, rfl⟩
    have there : vowel ∈ root.keysAt parent := Node.mem_keysAt_iff.2 (by simp [stands])
    exact ⟨vowel, entry, ⟨mem_prolongable_iff_keysAt.1 target, listed, there⟩, stands, rfl⟩
  · rintro ⟨vowel, entry, prolongs, stands, token⟩
    refine ⟨leaf.parent, mem_prolongable_iff_keysAt.2 prolongs.target, (leaf.symbol, vowel),
      prolongs.listed, entry, stands, ?_⟩
    rw [← token]

/--
The nodes of a tree that are new to another one are the leaves for the long vowels there: next to
each vowel that has a mark, wherever a vowel stands that can be prolonged. All other nodes are as
they were, and in the same order.
-/
structure LongVowels (rules : ComposerRules) (script : Script) (before after : Trie Text) :
    Prop where
  new : ∀ path, before.root.entryAt? path = none ∧ after.root.entryAt? path ≠ none ↔
    ∃ parent mark vowel, Prolongs rules before.root parent mark vowel ∧ path = parent ++ [mark]
  leaf : ∀ parent mark vowel, Prolongs rules before.root parent mark vowel →
    before.root.entryAt? (parent ++ [mark]) = none ∧ ∃ ending,
      rules.prolongation script vowel = .ok ending ∧
        after.root.find? (parent ++ [mark]) =
          some (.leaf ⟨before.get (parent ++ [vowel]) [] ++ ending, some true⟩)
  kept : ∀ path entry, before.root.entryAt? path = some entry →
    after.root.entryAt? path = some entry
  order : ∀ path, before.root.keysAt path <+: after.root.keysAt path

theorem Lengthened.longVowels {before after : Trie Text} (lowered : Lowered before)
    (lengthened : Lengthened rules script before.root (rules.longVowelLeaves script before.root)
      after) : LongVowels rules script before after := by
  obtain ⟨leafed, spoken⟩ := lengthened
  -- each mark that lands somewhere has its leaf in the list
  have listed {parent : Path} {mark vowel : Symbol}
      (prolongs : Prolongs rules before.root parent mark vowel) : ∃ entry,
        before.root.entryAt? (parent ++ [vowel]) = some entry ∧
        ⟨parent, mark, entry.token ++ rules.endingOf script vowel⟩ ∈
          rules.longVowelLeaves script before.root := by
    obtain ⟨entry, stands⟩ :=
      Option.ne_none_iff_exists'.1 (Node.mem_keysAt_iff.1 prolongs.stands)
    exact ⟨entry, stands, mem_longVowelLeaves_iff.2 ⟨vowel, entry, prolongs, stands, rfl⟩⟩
  refine ⟨fun path => ?_, fun parent mark vowel prolongs => ?_, fun _ _ => leafed.kept,
    fun path => ⟨_, (leafed.order path).symm⟩⟩
  · rw [leafed.new_iff, List.mem_map]
    constructor
    · rintro ⟨leaf, member, rfl⟩
      obtain ⟨vowel, -, prolongs, -⟩ := mem_longVowelLeaves_iff.1 member
      exact ⟨leaf.parent, leaf.symbol, vowel, prolongs, rfl⟩
    · rintro ⟨parent, mark, vowel, prolongs, rfl⟩
      obtain ⟨entry, -, member⟩ := listed prolongs
      exact ⟨_, member, rfl⟩
  · obtain ⟨entry, stands, member⟩ := listed prolongs
    obtain ⟨other, ending, known, said⟩ := spoken _ member
    obtain ⟨-, rfl⟩ := Prod.mk.inj (List.inj_on_of_nodup_map rules.longVowelMarks.distinct known
      prolongs.listed rfl)
    have ends : rules.endingOf script other = ending := by rw [endingOf, said]
    refine ⟨leafed.fresh _ member, ending, said, ?_⟩
    rw [lowered.get_eq (by simp) stands, ← ends]
    exact leafed.find?_path member

/--
Whenever the stage for long vowels returns on the trie whose consonants were doubled, it has added
a leaf for each long vowel and nothing else, and answers how many they are.
-/
theorem longVowels_of_addLongVowels {doubled trie : Trie Text} {count : Nat}
    (unlike : ∀ mark ∈ rules.longVowelMarks.keys,
      mark ∉ rules.longVowelMarks.entries.map Prod.snd)
    (built : (rules.buildDoubled script).build (.empty true []) = .ok doubled)
    (ran : Steps.run (rules.addLongVowels script) doubled = (.ok count, trie)) :
    LongVowels rules script doubled trie ∧ trie.size = doubled.size + count := by
  have apart : ∀ mark ∈ rules.longVowelMarks.entries, ∀ other ∈ rules.longVowelMarks.entries,
      mark.1 ≠ other.2 := fun mark listed other also same =>
    unlike mark.1 (List.mem_map_of_mem listed) (same ▸ List.mem_map_of_mem also)
  obtain ⟨lengthened, rfl⟩ := ends_addLongVowels apart doubled.root rfl ran
  refine ⟨lengthened.longVowels (lowered_buildDoubled rules script built), ?_⟩
  rw [Trie.size_eq, Trie.size_eq]
  exact lengthened.1.size_eq

theorem longVowels_of_addLongVowels_dental :
    (∀ mark ∈ dental.longVowelMarks.keys,
      mark ∉ dental.longVowelMarks.entries.map Prod.snd) ∧
    ∃ doubled trie count, (dental.buildDoubled .katakana).build (.empty true []) = .ok doubled ∧
      Steps.run (dental.addLongVowels .katakana) doubled = (.ok count, trie) ∧
      LongVowels dental .katakana doubled trie ∧ trie.size = doubled.size + count := by
  have unlike : ∀ mark ∈ dental.longVowelMarks.keys,
      mark ∉ dental.longVowelMarks.entries.map Prod.snd := by decide +kernel
  have known : (dental.scriptTrie .katakana).isOk = true := by decide +kernel
  refine ⟨unlike, ?_⟩
  cases built : dental.scriptTrie .katakana with
  | error failure => simp [built, Except.isOk, Except.toBool] at known
  | ok whole =>
      obtain ⟨_, doubled, made, rest⟩ := Steps.run_bind_eq_ok.1 (build_eq_ok.1 built)
      obtain ⟨_, trie, prolonged, -⟩ := Steps.run_bind_eq_ok.1 rest
      obtain ⟨count, _, counted, ⟨⟩⟩ := Steps.run_bind_eq_ok.1 prolonged
      have plain := build_eq_ok.2 made
      exact ⟨doubled, trie, count, plain, counted,
        longVowels_of_addLongVowels unlike plain counted⟩

end ComposerRules
end Honji
