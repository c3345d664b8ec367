import Honji.Proofs.Romanization.Prolonging

/-!
What stands behind the small tsu, where it is not doubled itself: a copy of each tree below the root
whose kana is not excluded, every token in it with its consonant doubled once. The long vowels that
katakana gets afterwards leave these trees alone.
-/

namespace Honji
namespace RomanizationRules
open Build
variable {rules : RomanizationRules} {script : Script} {trie built : Trie Text}

def excludedIn (rules : RomanizationRules) (script : Script) : List Text :=
  rules.geminationExclusions.map script.write

/--
Behind the small tsu a tree has what another one has behind its root, but for the excluded kana,
with the consonants doubled and in the same order; and it has all that the other one has.
-/
structure Doubled (rules : RomanizationRules) (script : Script) (plain after : Node Text) :
    Prop where
  top : after.entryAt? [script.write smallTsu] = some ⟨[], some true⟩
  below : ∀ symbol path, after.entryAt? (script.write smallTsu :: symbol :: path) =
    if symbol ∈ rules.excludedIn script then none
    else (plain.entryAt? (symbol :: path)).map fun entry =>
      ⟨rules.doubled entry.token, entry.terminal⟩
  first : after.keysAt [script.write smallTsu] =
    plain.keys.filter (· ∉ rules.excludedIn script)
  order : ∀ symbol path, after.keysAt (script.write smallTsu :: symbol :: path) =
    if symbol ∈ rules.excludedIn script then [] else plain.keysAt (symbol :: path)
  kept : ∀ path entry, plain.entryAt? path = some entry → after.entryAt? path = some entry

section
variable (excluded : smallTsu ∈ rules.geminationExclusions) (root : Node Text)
include excluded

theorem doublingTree_eq : doublingTree (rules.excludedIn script) (script.write smallTsu) root =
    { root.filterKeys (!(rules.excludedIn script).contains ·) with entry := ⟨[], some true⟩ } :=
  if_pos (List.contains_iff_mem.2 (List.mem_map_of_mem excluded))

theorem child?_doublingTree (symbol : Symbol) :
    (doublingTree (rules.excludedIn script) (script.write smallTsu) root).child? symbol =
      if symbol ∈ rules.excludedIn script then none else root.child? symbol := by
  rw [doublingTree_eq excluded]
  refine (Node.child?_filterKeys root _ symbol).trans ?_
  by_cases listed : symbol ∈ rules.excludedIn script <;> simp [listed]

theorem keys_doublingTree :
    (doublingTree (rules.excludedIn script) (script.write smallTsu) root).keys =
      root.keys.filter (· ∉ rules.excludedIn script) := by
  rw [doublingTree_eq excluded]
  refine (Branches.keys_filterKeys _ root.below).trans (List.filter_congr fun symbol _ => ?_)
  simp

omit root in
theorem doubled_addDoubling (ran : Steps.run (rules.addDoubling script) trie = (.ok (), built)) :
    Doubled rules script trie.root built.root := by
  rw [addDoubling, Steps.run_bind_of_ok (run_root trie)] at ran
  let tree := doublingTree (rules.excludedIn script) (script.write smallTsu) trie.root
  have attached : trie.attach [] (script.write smallTsu) (tree.mapTokens rules.doubled) =
      .ok built := run_change_eq_ok.1 ran
  have hung : built.root.child? (script.write smallTsu) = some (tree.mapTokens rules.doubled) := by
    obtain ⟨-, free, rfl⟩ := Trie.attach_eq_ok.1 attached
    have fresh : trie.root.child? (script.write smallTsu) = none := by
      simpa [Node.child?_eq_none_iff] using free
    exact (Node.child?_plant_nil fresh _ _).trans (if_pos rfl)
  have copies (symbol : Symbol) : tree.child? symbol =
      if symbol ∈ rules.excludedIn script then none else trie.root.child? symbol :=
    child?_doublingTree excluded trie.root symbol
  have top : tree.entry = ⟨[], some true⟩ := by
    rw [show tree = _ from doublingTree_eq excluded trie.root]
  refine ⟨?_, fun symbol path => ?_, ?_, fun symbol path => ?_,
    fun path entry => Trie.entryAt?_kept_of_attach attached⟩
  · rw [Node.entryAt?_cons, hung, Option.bind_some, Node.entryAt?_mapTokens, Node.entryAt?_nil, top]
    rfl
  · rw [Node.entryAt?_cons, hung, Option.bind_some, Node.entryAt?_mapTokens, Node.entryAt?_cons,
      Node.entryAt?_cons, copies]
    split <;> rfl
  · rw [Node.keysAt_cons, hung, Option.elim_some, Node.keysAt_nil, Node.keys_mapTokens]
    exact keys_doublingTree excluded trie.root
  · rw [Node.keysAt_cons, hung, Option.elim_some, Node.keysAt_mapTokens, Node.keysAt_cons,
      Node.keysAt_cons, copies]
    split <;> rfl

end

theorem Doubled.prolonged {way : LongVowel} {plain before after : Node Text}
    (doubled : Doubled rules script plain before)
    (prolonged : Prolonged way (prolongable script before) before after) :
    Doubled rules script plain after := by
  have unlisted (path : Path) :
      script.write smallTsu :: path ∉ (prolongable script before).map Prod.fst := by
    intro member
    obtain ⟨target, listed, same⟩ := List.mem_map.1 member
    exact (mem_prolongable_iff.1 listed).notTsu (by rw [same]; rfl)
  have unmarked (path : Path) : script.write smallTsu :: path ∉
      (prolongable script before).map (·.1 ++ [prolongedSound]) := by
    intro member
    obtain ⟨target, listed, same⟩ := List.mem_map.1 member
    have lasts := mem_prolongable_iff.1 listed
    refine lasts.notTsu ?_
    rw [← List.head?_append_of_ne_nil _ lasts.filled, same]
    rfl
  have entries (path : Path) : after.entryAt? (script.write smallTsu :: path) =
      before.entryAt? (script.write smallTsu :: path) := prolonged.others _ (unmarked path)
  have keys (path : Path) : after.keysAt (script.write smallTsu :: path) =
      before.keysAt (script.write smallTsu :: path) := by
    rw [prolonged.order, if_neg (unlisted path), List.append_nil]
  refine ⟨?_, fun symbol path => ?_, ?_, fun symbol path => ?_, fun path entry stands => ?_⟩
  · rw [entries, doubled.top]
  · rw [entries, doubled.below]
  · rw [keys, doubled.first]
  · rw [keys, doubled.order]
  · exact prolonged.kept (doubled.kept path entry stands)

/--
Where the small tsu is excluded, the finished trie of a script has behind it exactly the trees of
the kana that are not excluded, with their consonants doubled, beside all that it had before.
-/
theorem scriptTrie_doubled (excluded : smallTsu ∈ rules.geminationExclusions)
    (made : rules.scriptTrie script = .ok trie) :
    ∃ plain, (rules.buildPlain script).build (.empty false []) = .ok plain ∧
      Doubled rules script plain.root trie.root := by
  have stages {doubled : Trie Text}
      (made : (rules.buildDoubled script).build (.empty false []) = .ok doubled) :
      ∃ plain, (rules.buildPlain script).build (.empty false []) = .ok plain ∧
        Doubled rules script plain.root doubled.root := by
    obtain ⟨_, plain, ran, rest⟩ := Steps.run_bind_eq_ok.1 (build_eq_ok.1 made)
    exact ⟨plain, build_eq_ok.2 ran, doubled_addDoubling excluded rest⟩
  cases script with
  | hiragana => exact stages (scriptTrie_hiragana rules ▸ made)
  | katakana =>
      obtain ⟨doubled, count, made, ran⟩ := scriptTrie_katakana_eq_ok.1 made
      obtain ⟨plain, first, behind⟩ := stages made
      obtain ⟨-, prolonged⟩ := ends_addLongVowels rules .katakana doubled.root rfl ran
      exact ⟨plain, first, behind.prolonged prolonged⟩

theorem scriptTrie_doubled_hepburn :
    let rules := ofMethod .hepburn
    smallTsu ∈ rules.geminationExclusions ∧
      ∃ trie, rules.scriptTrie .katakana = .ok trie ∧
        ∃ plain, (rules.buildPlain .katakana).build (.empty false []) = .ok plain ∧
          Doubled rules .katakana plain.root trie.root := by
  intro rules
  have wellFormed : rules.WellFormed := ofMethod_wellFormed .hepburn
  obtain ⟨trie, made, -⟩ := wellFormed.scriptTrie_holds .katakana
  exact ⟨wellFormed.smallTsuExcluded, trie, made,
    scriptTrie_doubled wellFormed.smallTsuExcluded made⟩

end RomanizationRules
end Honji
