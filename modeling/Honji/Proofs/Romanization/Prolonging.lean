import Honji.Proofs.Romanization.Compiled
import Honji.Proofs.Trie.Order

/-!
Where the sign of a long vowel lands. The stage reads its targets off the trie it finds and adds
behind each of them one leaf. Signs get no signs, and nothing behind the nasal or the small tsu is a
target; so from whatever tables a trie was built, no leaf is there before, and none is refused.
-/

namespace Honji
namespace RomanizationRules
open Build
variable {rules : RomanizationRules} {script : Script} {way : LongVowel}

structure Prolongable (script : Script) (node : Node Text) (path : Path) (token : Text) : Prop where
  filled : path ≠ []
  stands : (node.entryAt? path).map Entry.token = some token
  lettered : token ≠ []
  unmarked : path.getLast? ≠ some prolongedSound
  notNasal : path.head? ≠ some (script.write nasal)
  notTsu : path.head? ≠ some (script.write smallTsu)

theorem prolongsIn_iff {path : Path} {token : Text} : prolongsIn script path token = true ↔
    path.getLast? ≠ some prolongedSound ∧ token ≠ [] ∧
      path.head? ≠ some (script.write nasal) ∧ path.head? ≠ some (script.write smallTsu) := by
  cases path <;> simp [prolongsIn, and_assoc]

theorem mem_prolongable_iff {node : Node Text} {path : Path} {token : Text} :
    (path, token) ∈ prolongable script node ↔ Prolongable script node path token := by
  rw [prolongable_eq, List.mem_map]
  constructor
  · rintro ⟨⟨found, entry⟩, member, same⟩
    obtain ⟨rfl, rfl⟩ := Prod.mk.inj same
    obtain ⟨walked, lasts⟩ := List.mem_filter.1 member
    obtain ⟨filled, stands⟩ := Node.mem_walk_iff.1 walked
    obtain ⟨unmarked, lettered, notNasal, notTsu⟩ := prolongsIn_iff.1 lasts
    exact ⟨filled, by rw [stands]; rfl, lettered, unmarked, notNasal, notTsu⟩
  · rintro ⟨filled, stands, lettered, unmarked, notNasal, notTsu⟩
    obtain ⟨entry, found, rfl⟩ := Option.map_eq_some_iff.1 stands
    refine ⟨(path, entry), List.mem_filter.2 ⟨Node.mem_walk_iff.2 ⟨filled, found⟩, ?_⟩, rfl⟩
    exact prolongsIn_iff.2 ⟨unmarked, lettered, notNasal, notTsu⟩

structure Prolonged (way : LongVowel) (targets : List (Path × Text)) (before after : Node Text) :
    Prop where
  longer : ∀ target ∈ targets, before.entryAt? (target.1 ++ [prolongedSound]) = none ∧
    ∃ longer, way.apply target.2 = .ok longer ∧
      after.entryAt? (target.1 ++ [prolongedSound]) = some ⟨longer, some true⟩
  others : ∀ path, path ∉ targets.map (·.1 ++ [prolongedSound]) →
    after.entryAt? path = before.entryAt? path
  order : ∀ path, after.keysAt path =
    before.keysAt path ++ if path ∈ targets.map Prod.fst then [prolongedSound] else []

namespace Prolonged
variable {targets : List (Path × Text)} {before after : Node Text}

theorem refl (node : Node Text) : Prolonged way [] node node :=
  ⟨by simp, fun _ _ => rfl, by simp⟩

theorem kept (prolonged : Prolonged way targets before after) {path : Path} {entry : Entry Text}
    (stands : before.entryAt? path = some entry) : after.entryAt? path = some entry := by
  rw [prolonged.others path fun member => ?_, stands]
  obtain ⟨target, listed, rfl⟩ := List.mem_map.1 member
  rw [(prolonged.longer target listed).1] at stands
  cases stands

theorem entryAt?_ne_none_iff (prolonged : Prolonged way targets before after) (path : Path) :
    after.entryAt? path ≠ none ↔
      before.entryAt? path ≠ none ∨ path ∈ targets.map (·.1 ++ [prolongedSound]) := by
  by_cases marked : path ∈ targets.map (·.1 ++ [prolongedSound])
  · obtain ⟨target, listed, rfl⟩ := List.mem_map.1 marked
    obtain ⟨-, longer, -, there⟩ := prolonged.longer target listed
    simp [there, marked]
  · simp [prolonged.others path marked, marked]

theorem snoc {trie built : Trie Text} {target : Path × Text} {longer : Text}
    (prolonged : Prolonged way targets before trie.root)
    (parent : before.entryAt? target.1 ≠ none) (applied : way.apply target.2 = .ok longer)
    (added : trie.add target.1 prolongedSound longer = .ok built) :
    Prolonged way (targets ++ [target]) before built.root := by
  obtain ⟨fresh, entries, keys⟩ := Trie.add_spec added
    ((prolonged.entryAt?_ne_none_iff _).2 (.inl parent))
  obtain ⟨freshBefore, unlisted⟩ := not_or.1 (mt (prolonged.entryAt?_ne_none_iff _).2 (by simpa))
  have unlike : target.1 ∉ targets.map Prod.fst := by
    intro member
    obtain ⟨other, listed, same⟩ := List.mem_map.1 member
    exact unlisted (List.mem_map.2 ⟨other, listed, by rw [same]⟩)
  refine ⟨List.forall_mem_append.2 ⟨fun other listed => ?_, ?_⟩, fun path absent => ?_,
    fun path => ?_⟩
  · obtain ⟨free, long, said, there⟩ := prolonged.longer other listed
    have apart : target.1 ++ [prolongedSound] ≠ other.1 ++ [prolongedSound] := by
      intro same
      rw [same, there] at fresh
      cases fresh
    exact ⟨free, long, said, by rw [entries, if_neg apart, there]⟩
  · exact List.forall_mem_singleton.2
      ⟨by simpa using freshBefore, longer, applied, by rw [entries, if_pos rfl]⟩
  · rw [List.map_append, List.mem_append, not_or] at absent
    rw [entries, if_neg fun same => absent.2 (by simp [same]), prolonged.others path absent.1]
  · rw [keys, prolonged.order, List.append_assoc, List.map_append, List.map_singleton]
    by_cases here : path = target.1
    · simp [here, unlike]
    · rw [if_neg here, List.append_nil]
      exact congrArg _ (if_congr (by simp [here]) rfl rfl)

theorem leaf (prolonged : Prolonged way targets before after) {target : Path × Text}
    (unmarked : ∀ other ∈ targets, other.1.getLast? ≠ some prolongedSound)
    (listed : target ∈ targets) : ∃ longer, way.apply target.2 = .ok longer ∧
      after.find? (target.1 ++ [prolongedSound]) = some (.leaf ⟨longer, some true⟩) := by
  obtain ⟨fresh, longer, applied, there⟩ := prolonged.longer target listed
  refine ⟨longer, applied, Node.find?_eq_leaf there ?_⟩
  rw [prolonged.order, Node.keysAt_of_entryAt?_eq_none fresh, if_neg, List.append_nil]
  intro member
  obtain ⟨other, also, same⟩ := List.mem_map.1 member
  exact unmarked other also (by simp [same])

theorem size_eq (prolonged : Prolonged way targets before after)
    (distinct : (targets.map Prod.fst).Nodup) :
    after.below.size = before.below.size + targets.length := by
  have marks : (targets.map (·.1 ++ [prolongedSound])).Nodup := by
    have apart := distinct.map (List.append_left_injective [prolongedSound])
    rwa [List.map_map] at apart
  rw [Node.size_eq_add_length marks ?_ ?_ prolonged.entryAt?_ne_none_iff, List.length_map]
  · exact List.forall_mem_map.2 fun target _ => by simp
  · exact List.forall_mem_map.2 fun target listed => (prolonged.longer target listed).1

end Prolonged

theorem ends_addLongVowels (rules : RomanizationRules) (script : Script) (before : Node Text) :
    Ends (·.root = before) (rules.addLongVowels script) fun count trie =>
      count = (prolongable script before).length ∧
        Prolonged rules.longVowel (prolongable script before) before trie.root := by
  refine Ends.root_eq.bind fun root trie built count start ran => ?_
  obtain ⟨rfl, rfl⟩ := start
  have parents : ∀ target ∈ prolongable script trie.root, trie.root.entryAt? target.1 ≠ none := by
    intro target listed missing
    have stands := (mem_prolongable_iff.1 listed).stands
    rw [missing] at stands
    cases stands
  let left (done : List (Path × Text)) (reached : Trie Text) : Prop :=
    Prolonged rules.longVowel done trie.root reached.root
  have loop : Ends (left []) ((prolongable script trie.root).forM fun target => do
      let longer ← (rules.longVowel.apply target.2 : Except Failure Text)
      Build.add target.1 prolongedSound longer) fun _ =>
        left ([] ++ prolongable script trie.root) :=
    Ends.forM left [] _ fun done target listed =>
      (Ends.lift_eq _).bind fun longer => Ends.change fun reached next stands added =>
        stands.1.snoc (parents target listed) stands.2 added
  obtain ⟨_, between, looped, rest⟩ := Steps.run_bind_eq_ok.1 ran
  cases rest
  exact ⟨rfl, loop (Prolonged.refl _) looped⟩

/-! ### The stage within the building of a script -/

variable {trie : Trie Text}

theorem scriptTrie_hiragana (rules : RomanizationRules) :
    rules.scriptTrie .hiragana = (rules.buildDoubled .hiragana).build (.empty false []) :=
  congrArg (build · (.empty false [])) bind_pure_unit

theorem scriptTrie_katakana_eq_ok : rules.scriptTrie .katakana = .ok trie ↔ ∃ doubled count,
    (rules.buildDoubled .katakana).build (.empty false []) = .ok doubled ∧
      Steps.run (rules.addLongVowels .katakana) doubled = (.ok count, trie) := by
  rw [scriptTrie, build_eq_ok, buildScript, Steps.run_bind_eq_ok]
  constructor
  · rintro ⟨_, doubled, ran, prolonged⟩
    obtain ⟨count, _, counted, ⟨⟩⟩ := Steps.run_bind_eq_ok.1 prolonged
    exact ⟨doubled, count, build_eq_ok.2 ran, counted⟩
  · rintro ⟨doubled, count, built, counted⟩
    exact ⟨(), doubled, build_eq_ok.1 built, Steps.run_bind_of_ok counted⟩

/--
The nodes of a tree that are new to another one are the leaves for the long vowels of the tokens
there that can be prolonged; all other nodes are as they were, and in the same order.
-/
structure LongVowels (way : LongVowel) (before after : Node Text) : Prop where
  new : ∀ path, before.entryAt? path = none ∧ after.entryAt? path ≠ none ↔
    ∃ short token, Prolongable .katakana before short token ∧ path = short ++ [prolongedSound]
  leaf : ∀ path token, Prolongable .katakana before path token →
    before.entryAt? (path ++ [prolongedSound]) = none ∧
      ∃ longer, way.apply token = .ok longer ∧
        after.find? (path ++ [prolongedSound]) = some (.leaf ⟨longer, some true⟩)
  kept : ∀ path entry, before.entryAt? path = some entry → after.entryAt? path = some entry
  order : ∀ path, before.keysAt path <+: after.keysAt path
  asked : ∀ target ∈ prolongable .katakana before, target.2 ≠ []

theorem Prolonged.longVowels {before after : Node Text}
    (prolonged : Prolonged way (prolongable .katakana before) before after) :
    LongVowels way before after where
  new := fun path => by
    rw [prolonged.entryAt?_ne_none_iff, List.mem_map]
    constructor
    · rintro ⟨missing, there | ⟨target, listed, rfl⟩⟩
      · exact absurd missing there
      · exact ⟨target.1, target.2, mem_prolongable_iff.1 listed, rfl⟩
    · rintro ⟨short, token, lasts, rfl⟩
      have listed := mem_prolongable_iff.2 lasts
      exact ⟨(prolonged.longer _ listed).1, .inr ⟨_, listed, rfl⟩⟩
  leaf := fun path token lasts => by
    have listed := mem_prolongable_iff.2 lasts
    exact ⟨(prolonged.longer _ listed).1,
      prolonged.leaf (fun _ other => (mem_prolongable_iff.1 other).unmarked) listed⟩
  kept := fun _ _ => prolonged.kept
  order := fun path => ⟨_, (prolonged.order path).symm⟩
  asked := fun _ listed => (mem_prolongable_iff.1 listed).lettered

/--
The trie of katakana has a leaf for each long vowel beyond the trie whose consonants were doubled,
and the stage that adds them answers how many; the trie of hiragana has none of them.
-/
theorem scriptTrie_longVowels (built : rules.scriptTrie .katakana = .ok trie) :
    rules.scriptTrie .hiragana = (rules.buildDoubled .hiragana).build (.empty false []) ∧
      ∃ doubled count, (rules.buildDoubled .katakana).build (.empty false []) = .ok doubled ∧
        Steps.run (rules.addLongVowels .katakana) doubled = (.ok count, trie) ∧
        trie.size = doubled.size + count ∧
        LongVowels rules.longVowel doubled.root trie.root := by
  obtain ⟨doubled, count, made, ran⟩ := scriptTrie_katakana_eq_ok.1 built
  obtain ⟨rfl, prolonged⟩ := ends_addLongVowels rules .katakana doubled.root rfl ran
  refine ⟨scriptTrie_hiragana rules, doubled, _, made, ran, ?_, prolonged.longVowels⟩
  rw [Trie.size_eq, Trie.size_eq]
  exact prolonged.size_eq (nodup_prolongable .katakana doubled.root)

theorem scriptTrie_longVowels_macron :
    let rules := ofMethod .modifiedHepburn
    ∃ trie, rules.scriptTrie .katakana = .ok trie ∧
      rules.scriptTrie .hiragana = (rules.buildDoubled .hiragana).build (.empty false []) ∧
      ∃ doubled count, (rules.buildDoubled .katakana).build (.empty false []) = .ok doubled ∧
        Steps.run (rules.addLongVowels .katakana) doubled = (.ok count, trie) ∧
        trie.size = doubled.size + count ∧
        LongVowels .macron doubled.root trie.root := by
  intro rules
  obtain ⟨trie, built, -⟩ := (ofMethod_wellFormed .modifiedHepburn).scriptTrie_holds .katakana
  exact ⟨trie, built, scriptTrie_longVowels built⟩

end RomanizationRules
end Honji
