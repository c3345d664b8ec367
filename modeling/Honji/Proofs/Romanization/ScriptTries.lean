import Honji.Proofs.Romanization.Stages

/-!
The trie of a script, from any tables of a romanization method. A few conditions on the tables
decide whether it can be built; where they hold it has the rules of all stages.
-/

namespace Honji
namespace RomanizationRules
open Build
variable (rules : RomanizationRules) (script : Script)

@[mk_iff]
structure Buildable : Prop where
  distinct : (rules.images script).Nodup
  contracted : rules.Contracted script rules.contractions.entries
  nasals : rules.NasalsFit script
  smallTsuFree : script.write smallTsu ∉ rules.images script

def doubledIn : List Rule :=
  rules.plainIn script ++ rules.doublingIn script (rules.plainIn script)

def rulesIn : Script → List Rule
  | .hiragana => rules.doubledIn .hiragana
  | .katakana => rules.doubledIn .katakana ++ rules.longIn .katakana (rules.doubledIn .katakana)

variable {rules script}

/-! ### Paths of the plain rules -/

theorem mem_plainIn {rule : Rule} (member : rule ∈ rules.plainIn script) :
    (∃ entry ∈ rules.syllabary.entries, rule = ([script.write entry.1], entry.2)) ∨
      (∃ kana, ∃ glide ∈ glides, rule.1 = [script.write kana, script.write glide]) ∨
      ∃ kana, rule.1 = [script.write nasal, script.write kana] := by
  simp only [plainIn, contractedIn, syllablesIn, contractionsIn, nasalsIn, List.mem_append,
    List.mem_map, List.mem_flatMap] at member
  rcases member with (⟨entry, listed, rfl⟩ | ⟨entry, -, pair, zipped, rfl⟩) | ⟨entry, -, rfl⟩
  · exact .inl ⟨entry, listed, rfl⟩
  · exact .inr (.inl ⟨_, pair.1, (List.of_mem_zip zipped).1, rfl⟩)
  · exact .inr (.inr ⟨_, rfl⟩)

theorem plainIn_ne_nil : ∀ rule ∈ rules.plainIn script, rule.1 ≠ [] := by
  intro rule member
  rcases mem_plainIn member with ⟨entry, -, rfl⟩ | ⟨kana, glide, -, path⟩ | ⟨kana, path⟩
  · simp
  · simp [path]
  · simp [path]

theorem single_mem_plainIn {kana : Text} :
    [kana] ∈ (rules.plainIn script).map Prod.fst ↔ kana ∈ rules.images script := by
  constructor
  · intro member
    obtain ⟨rule, listed, path⟩ := List.mem_map.1 member
    rcases mem_plainIn listed with ⟨entry, known, rfl⟩ | ⟨kana, glide, -, other⟩ | ⟨kana, other⟩
    · obtain rfl : script.write entry.1 = kana := by simpa using path
      simpa [images, Table.keys] using ⟨_, ⟨_, known⟩, rfl⟩
    · rw [other] at path
      simp at path
    · rw [other] at path
      simp at path
  · intro member
    obtain ⟨key, listed, rfl⟩ := List.mem_map.1 member
    obtain ⟨entry, known, rfl⟩ := List.mem_map.1 listed
    refine List.mem_map.2 ⟨([script.write entry.1], entry.2), ?_, rfl⟩
    exact List.mem_append_left _ (List.mem_append_left _ (List.mem_map.2 ⟨entry, known, rfl⟩))

/-! ### All stages -/

theorem head_doublingIn {known : List Rule} {rule : Rule}
    (member : rule ∈ rules.doublingIn script known) :
    rule.1.head? = some (script.write smallTsu) := by
  rcases List.mem_cons.1 member with rfl | copied
  · rfl
  · obtain ⟨copy, -, rfl⟩ := List.mem_map.1 copied
    rfl

theorem doubledIn_ne_nil : ∀ rule ∈ rules.doubledIn script, rule.1 ≠ [] := by
  intro rule member
  rcases List.mem_append.1 member with plain | doubling
  · exact plainIn_ne_nil rule plain
  · rintro empty
    simpa [empty] using head_doublingIn doubling

theorem write_glide_ne_prolongedSound :
    ∀ glide ∈ glides, script.write glide ≠ prolongedSound := by
  cases script <;> decide

theorem prolonged_fresh {rule : Rule} (listed : rule ∈ rules.doubledIn script)
    (lasts : prolongsIn script rule.1 rule.2 = true) :
    rule.1 ++ [prolongedSound] ∉ (rules.doubledIn script).map Prod.fst := by
  obtain ⟨symbol, rest, path⟩ := List.exists_cons_of_ne_nil (doubledIn_ne_nil rule listed)
  obtain ⟨notNasal, notTsu⟩ : symbol ≠ script.write nasal ∧ symbol ≠ script.write smallTsu := by
    have heads := (Bool.and_eq_true_iff.1 lasts).2
    simpa [path] using heads
  intro member
  obtain ⟨long, known, same⟩ := List.mem_map.1 member
  rw [path, List.cons_append] at same
  rcases List.mem_append.1 known with plain | doubling
  · rcases mem_plainIn plain with ⟨entry, -, rfl⟩ | ⟨kana, glide, small, other⟩ | ⟨kana, other⟩
    · simp at same
    · rw [other] at same
      cases rest with
      | nil =>
          have ends : script.write glide = prolongedSound := by simpa using (List.cons.inj same).2
          exact write_glide_ne_prolongedSound glide small ends
      | cons next rest => simp at same
    · rw [other] at same
      exact notNasal (List.cons.inj same).1.symm
  · have head := head_doublingIn doubling
    rw [same] at head
    exact notTsu (Option.some.inj head)

variable (rules script)

theorem settles_plain : Settles [] ((rules.images script).Nodup ∧
      rules.Contracted script rules.contractions.entries ∧ rules.NasalsFit script)
    (rules.plainIn script) (rules.buildPlain script) := by
  have all := (rules.settles_syllables script).andThen fun distinct =>
    (settles_contractions distinct).andThen fun contracted => settles_nasals distinct contracted
  rwa [← List.append_assoc] at all

theorem settles_doubled :
    Settles [] (rules.Buildable script) (rules.doubledIn script) (rules.buildDoubled script) := by
  have all := (rules.settles_plain script).andThen fun _ =>
    rules.settles_doubling script plainIn_ne_nil
  refine all.congr ?_
  rw [buildable_iff, List.nil_append, single_mem_plainIn, and_assoc, and_assoc]

theorem settles_script :
    Settles [] (rules.Buildable script) (rules.rulesIn script) (rules.buildScript script) := by
  cases script with
  | hiragana =>
      have all : Settles [] (rules.Buildable .hiragana ∧ True) (rules.doubledIn .hiragana ++ [])
          (rules.buildScript .hiragana) :=
        (rules.settles_doubled .hiragana).andThen fun _ => .of_adds .done
      simpa [rulesIn] using all
  | katakana =>
      have all : Settles [] (rules.Buildable .katakana ∧ True) (rules.rulesIn .katakana)
          (rules.buildScript .katakana) :=
        (rules.settles_doubled .katakana).andThen fun _ =>
          .of_adds (adds_longVowels doubledIn_ne_nil fun _ => prolonged_fresh)
      simpa using all

/-- The trie of a script is built and holds the rules of all stages, or the tables are refused. -/
theorem scriptTrie_cases :
    (rules.Buildable script ∧
        ∃ trie, rules.scriptTrie script = .ok trie ∧ trie.Holds (rules.rulesIn script)) ∨
      (¬ rules.Buildable script ∧
        ∃ failure, rules.scriptTrie script = .error failure ∧ failure.BlamesTables) :=
  (rules.settles_script script).build_cases ⟨Node.holds_leaf _, rfl, rfl⟩

end RomanizationRules
end Honji
