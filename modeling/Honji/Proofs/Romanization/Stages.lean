import Honji.Proofs.Romanization.RuleList
import Honji.Proofs.Trie.Settling
import Honji.Proofs.Trie.Walk

/-!
Building the trie of a script from any tables of a romanization method. Each stage has a condition
on the tables: under it the stage adds rules of its own, and otherwise it refuses the tables.
-/

namespace Honji

theorem nodup_write_glides (script : Script) :
    (RomanizationRules.glides.map script.write).Nodup := by
  cases script <;> decide

namespace RomanizationRules
open Build
variable (rules : RomanizationRules) (script : Script)

/-! ### The rules of a script -/

def images : List Text :=
  rules.syllabary.keys.map script.write

def syllablesIn : List Rule :=
  rules.syllabary.entries.map fun entry => ([script.write entry.1], entry.2)

def tokenIn (kana : Text) : Text :=
  ((rules.syllabary.entries.find? (script.write ·.1 = script.write kana)).map Prod.snd).getD []

def contractionsIn (entry : Text × List Text) : List Rule :=
  (glides.zip entry.2).map fun pair =>
    ([script.write entry.1, script.write pair.1], (rules.tokenIn script entry.1).take 1 ++ pair.2)

def contractedIn (entries : List (Text × List Text)) : List Rule :=
  rules.syllablesIn script ++ entries.flatMap (rules.contractionsIn script)

def nasalsIn : List Rule :=
  rules.nasalFollowers.entries.map fun entry =>
    ([script.write nasal, script.write entry.1],
      (rules.tokenIn script nasal).take 1 ++ Char.ofNat 0x27 :: entry.2)

def plainIn : List Rule :=
  rules.contractedIn script rules.contractions.entries ++ rules.nasalsIn script

def Based (kana : Text) : Prop :=
  ∃ entry ∈ rules.syllabary.entries, script.write entry.1 = script.write kana ∧ entry.2 ≠ []

@[mk_iff]
structure Contracted (entries : List (Text × List Text)) : Prop where
  lengths : ∀ entry ∈ entries, entry.2.length = glideCount
  based : ∀ entry ∈ entries, rules.Based script entry.1
  distinct : (entries.map fun entry => script.write entry.1).Nodup

@[mk_iff]
structure NasalsFit : Prop where
  based : rules.Based script nasal
  distinct : (rules.nasalFollowers.keys.map script.write).Nodup
  apart : script.write nasal ∈ rules.contractions.keys.map script.write →
    ∀ kana ∈ rules.nasalFollowers.keys.map script.write, kana ∉ glides.map script.write

variable {rules script}

theorem mem_syllablesIn {kana token : Text} : ([kana], token) ∈ rules.syllablesIn script ↔
    ∃ entry ∈ rules.syllabary.entries, script.write entry.1 = kana ∧ entry.2 = token := by
  simp only [syllablesIn, List.mem_map, Prod.mk.injEq, List.cons.injEq, and_true]

theorem length_of_mem_syllablesIn {path : Path}
    (member : path ∈ (rules.syllablesIn script).map Prod.fst) : path.length = 1 := by
  obtain ⟨rule, listed, rfl⟩ := List.mem_map.1 member
  obtain ⟨entry, -, rfl⟩ := List.mem_map.1 listed
  rfl

theorem tokenIn_eq (distinct : (rules.images script).Nodup) {kana token : Text}
    (listed : ([script.write kana], token) ∈ rules.syllablesIn script) :
    rules.tokenIn script kana = token := by
  obtain ⟨entry, member, same, rfl⟩ := mem_syllablesIn.1 listed
  rw [images, Table.keys, List.map_map] at distinct
  unfold tokenIn
  cases found : rules.syllabary.entries.find? (script.write ·.1 = script.write kana) with
  | none => simpa [same] using List.find?_eq_none.1 found entry member
  | some other =>
      have alike : script.write other.1 = script.write kana := by simpa using List.find?_some found
      have only := List.inj_on_of_nodup_map distinct (List.mem_of_find?_eq_some found) member
        (alike.trans same.symm)
      rw [only]
      rfl

theorem based_iff {kana : Text} : rules.Based script kana ↔
    ∃ token, ([script.write kana], token) ∈ rules.syllablesIn script ∧ token ≠ [] := by
  simp only [Based, mem_syllablesIn]
  constructor
  · rintro ⟨entry, member, same, filled⟩
    exact ⟨entry.2, ⟨entry, member, same, rfl⟩, filled⟩
  · rintro ⟨_, ⟨entry, member, same, rfl⟩, filled⟩
    exact ⟨entry, member, same, filled⟩

theorem paths_contractionsIn {entry : Text × List Text} (length : entry.2.length = glideCount) :
    (rules.contractionsIn script entry).map Prod.fst =
      glides.map fun glide => [script.write entry.1, script.write glide] := by
  have paired : (glides.zip entry.2).map Prod.fst = glides :=
    List.map_fst_zip (by rw [length]; decide)
  conv_rhs => rw [← paired]
  simp [contractionsIn, Function.comp_def]

/-! ### Syllables -/

variable (rules script) in
theorem settles_syllables :
    Settles [] (rules.images script).Nodup (rules.syllablesIn script)
      (rules.addSyllables script) := by
  have each : Settles [] (Rule.Fresh [] (rules.syllablesIn script)) (rules.syllablesIn script)
      (rules.addSyllables script) := by
    have rounds : Settles [] _ _ _ := Settles.addEach (fun _ => []) Prod.fst Prod.snd
      (rules.syllabary.entries.map fun entry => (script.write entry.1, entry.2)) (by simp)
    simpa [syllablesIn, addSyllables, addAll, Function.comp_def] using rounds
  have paths : (rules.syllablesIn script).map Prod.fst =
      (rules.images script).map fun image => [image] := by
    simp [syllablesIn, images, Table.keys]
  refine each.congr ?_
  rw [Rule.Fresh, paths, List.nodup_map_iff List.singleton_injective]
  simp

/-! ### Contractions -/

theorem run_baseLetter {trie : Trie Text} {known : List Rule} (holds : trie.Holds known)
    (rule : BaseRule) {kana token : Text} (listed : ([kana], token) ∈ known) (filled : token ≠ []) :
    Steps.run (baseLetter rule kana) trie = (.ok (token.head filled), trie) := by
  have there := holds.root.entryAt?_of_mem (by simp) listed
  rw [Node.entryAt?_cons, Option.bind_eq_some_iff] at there
  obtain ⟨node, led, same⟩ := there
  rw [Node.entryAt?_nil, Option.some.injEq] at same
  obtain ⟨letter, rest, rfl⟩ := List.exists_cons_of_ne_nil filled
  rw [baseLetter, Steps.run_bind_of_ok (run_root trie)]
  simp [led, same]

theorem run_baseLetter_of_not {trie : Trie Text} {known : List Rule} (holds : trie.Holds known)
    (rule : BaseRule) {kana : Text} (unknown : ¬ ∃ token, ([kana], token) ∈ known ∧ token ≠ []) :
    ∃ defect, Steps.run (baseLetter rule kana) trie = (.error (.unusableTable defect), trie) := by
  rw [baseLetter, Steps.run_bind_of_ok (run_root trie)]
  cases led : trie.root.child? kana with
  | none => exact ⟨_, rfl⟩
  | some node =>
      have stands : trie.root.entryAt? [kana] = some node.entry := by
        simp [Node.entryAt?_cons, led]
      obtain ⟨token, listed, same⟩ := holds.root.exists_of_entryAt? (by simp) stands
      have blank : node.entry.token = [] := by
        rw [same]
        by_contra filled
        exact unknown ⟨token, listed, filled⟩
      simp only [blank]
      exact ⟨_, rfl⟩

theorem settles_baseLetter {known added : List Rule} {sound : Prop} {next : Char → Build Unit}
    (rule : BaseRule) {kana : Text}
    (goesOn : ∀ letter rest, ([kana], letter :: rest) ∈ known →
      Settles known sound added (next letter)) :
    Settles known ((∃ token, ([kana], token) ∈ known ∧ token ≠ []) ∧ sound) added
      (baseLetter rule kana >>= next) := by
  by_cases based : ∃ token, ([kana], token) ∈ known ∧ token ≠ []
  · obtain ⟨token, listed, filled⟩ := based
    obtain ⟨letter, rest, rfl⟩ := List.exists_cons_of_ne_nil filled
    refine (Settles.read letter (fun trie holds => run_baseLetter holds rule listed filled)
      (goesOn letter rest listed)).congr ?_
    exact ⟨fun holds => ⟨⟨_, listed, filled⟩, holds⟩, fun both => both.2⟩
  · refine ⟨fun both => absurd both.1 based, fun _ trie holds => ?_⟩
    obtain ⟨defect, ran⟩ := run_baseLetter_of_not holds rule based
    exact ⟨.unusableTable defect, trie, by rw [Steps.run_bind, ran], trivial⟩

theorem settles_contraction (distinct : (rules.images script).Nodup) {known : List Rule}
    (single : ∀ kana token, ([kana], token) ∈ known ↔ ([kana], token) ∈ rules.syllablesIn script)
    (entry : Text × List Text) :
    Settles known (entry.2.length = glideCount ∧ rules.Based script entry.1 ∧
        Rule.Fresh known (rules.contractionsIn script entry))
      (rules.contractionsIn script entry) (addContraction script entry.1 entry.2) := by
  unfold addContraction
  by_cases length : entry.2.length = glideCount
  · simp only [length, ne_eq, not_true_eq_false, ↓reduceIte]
    have endings (letter : Char) (rest : Text)
        (listed : ([script.write entry.1], letter :: rest) ∈ known) :
        Settles known (Rule.Fresh known (rules.contractionsIn script entry))
          (rules.contractionsIn script entry)
          ((glides.zip entry.2).forM fun pair =>
            Build.add [script.write entry.1] (script.write pair.1) (letter :: pair.2)) := by
      have ruled : rules.contractionsIn script entry = (glides.zip entry.2).map fun pair =>
          ([script.write entry.1] ++ [script.write pair.1], letter :: pair.2) := by
        simp [contractionsIn, tokenIn_eq distinct ((single _ _).1 listed)]
      rw [ruled]
      exact Settles.addEach _ _ _ _ fun _ _ => .inr (List.mem_map.2 ⟨_, listed, rfl⟩)
    have both := settles_baseLetter .contraction endings
    simp only [single, ← based_iff] at both
    exact both.congr (by simp)
  · have blames : Failure.BlamesTables
        (.unusableTable (.suffixCount entry.1 entry.2.length)) := trivial
    simp only [length, ne_eq, not_false_eq_true, ↓reduceIte]
    exact (Settles.of_throw blames).congr (by simp)

theorem single_mem_contractedIn {entries : List (Text × List Text)} {kana token : Text} :
    ([kana], token) ∈ rules.contractedIn script entries ↔
      ([kana], token) ∈ rules.syllablesIn script := by
  simp [contractedIn, contractionsIn]

theorem pair_mem_contractedIn {entries : List (Text × List Text)}
    (lengths : ∀ entry ∈ entries, entry.2.length = glideCount) {first second : Text} :
    [first, second] ∈ (rules.contractedIn script entries).map Prod.fst ↔
      first ∈ entries.map (fun entry => script.write entry.1) ∧
        second ∈ glides.map script.write := by
  rw [contractedIn, List.map_append, List.map_flatMap, List.mem_append, List.mem_flatMap]
  constructor
  · rintro (single | ⟨entry, listed, inside⟩)
    · exact absurd (length_of_mem_syllablesIn single) (by simp)
    · rw [paths_contractionsIn (lengths entry listed)] at inside
      obtain ⟨glide, member, same⟩ := List.mem_map.1 inside
      obtain ⟨rfl, rfl⟩ : script.write entry.1 = first ∧ script.write glide = second := by
        simpa using same
      exact ⟨List.mem_map.2 ⟨entry, listed, rfl⟩, List.mem_map.2 ⟨glide, member, rfl⟩⟩
  · rintro ⟨contracted, small⟩
    obtain ⟨entry, listed, rfl⟩ := List.mem_map.1 contracted
    obtain ⟨glide, member, rfl⟩ := List.mem_map.1 small
    refine .inr ⟨entry, listed, ?_⟩
    rw [paths_contractionsIn (lengths entry listed)]
    exact List.mem_map.2 ⟨glide, member, rfl⟩

theorem pair_injective (first : Text) : Function.Injective fun second : Text => [first, second] :=
  fun _ _ same => by simpa using same

theorem fresh_contractionsIn {done : List (Text × List Text)}
    (lengths : ∀ entry ∈ done, entry.2.length = glideCount) {entry : Text × List Text}
    (length : entry.2.length = glideCount) :
    Rule.Fresh (rules.contractedIn script done) (rules.contractionsIn script entry) ↔
      script.write entry.1 ∉ done.map fun entry => script.write entry.1 := by
  have apart := (nodup_write_glides script).map (pair_injective (script.write entry.1))
  rw [List.map_map] at apart
  rw [Rule.Fresh, paths_contractionsIn length, List.forall_mem_map]
  refine (and_iff_right apart).trans ⟨fun fresh member => ?_, fun absent glide _ known => ?_⟩
  · have glide : "ゃ".toList ∈ glides := by decide
    exact fresh _ glide ((pair_mem_contractedIn lengths).2 ⟨member, List.mem_map_of_mem glide⟩)
  · exact absent ((pair_mem_contractedIn lengths).1 known).1

theorem contracted_snoc {done : List (Text × List Text)} {entry : Text × List Text} :
    rules.Contracted script (done ++ [entry]) ↔ rules.Contracted script done ∧
      entry.2.length = glideCount ∧ rules.Based script entry.1 ∧
        script.write entry.1 ∉ done.map fun entry => script.write entry.1 := by
  rw [contracted_iff, contracted_iff, List.map_append, List.map_singleton,
    List.nodup_append_comm, List.singleton_append, List.nodup_cons, List.forall_mem_append,
    List.forall_mem_append, List.forall_mem_singleton, List.forall_mem_singleton]
  constructor
  · rintro ⟨⟨lengths, length⟩, ⟨allBased, based⟩, unlike, distinct⟩
    exact ⟨⟨lengths, allBased, distinct⟩, length, based, unlike⟩
  · rintro ⟨⟨lengths, allBased, distinct⟩, length, based, unlike⟩
    exact ⟨⟨lengths, length⟩, ⟨allBased, based⟩, unlike, distinct⟩

theorem Contracted.of_append {done rest : List (Text × List Text)}
    (contracted : rules.Contracted script (done ++ rest)) : rules.Contracted script done := by
  have distinct := contracted.distinct
  rw [List.map_append] at distinct
  exact ⟨fun entry member => contracted.lengths entry (by simp [member]),
    fun entry member => contracted.based entry (by simp [member]),
    (List.nodup_append.1 distinct).1⟩

theorem settles_contractions (distinct : (rules.images script).Nodup) :
    Settles (rules.syllablesIn script) (rules.Contracted script rules.contractions.entries)
      (rules.contractions.entries.flatMap (rules.contractionsIn script))
      (rules.addContractions script) := by
  have rounds : Settles (rules.contractedIn script [])
      (rules.Contracted script ([] ++ rules.contractions.entries))
      (rules.contractions.entries.flatMap (rules.contractionsIn script))
      (rules.addContractions script) := by
    refine Settles.forM (rules.Contracted script) (fun _ _ => Contracted.of_append)
      (fun done entry contracted => ?_) [] _ ⟨by simp, by simp, by simp⟩
    refine (settles_contraction distinct (fun _ _ => single_mem_contractedIn) entry).congr ?_
    rw [contracted_snoc, and_iff_right contracted]
    exact and_congr_right fun length => and_congr_right fun _ =>
      fresh_contractionsIn contracted.lengths length
  simpa [contractedIn] using rounds

/-! ### Nasals -/

theorem fresh_nasalsIn (contracted : rules.Contracted script rules.contractions.entries) :
    Rule.Fresh (rules.contractedIn script rules.contractions.entries) (rules.nasalsIn script) ↔
      (rules.nasalFollowers.keys.map script.write).Nodup ∧
        (script.write nasal ∈ rules.contractions.keys.map script.write →
          ∀ kana ∈ rules.nasalFollowers.keys.map script.write, kana ∉ glides.map script.write) := by
  have paths : (rules.nasalsIn script).map Prod.fst =
      (rules.nasalFollowers.keys.map script.write).map fun kana => [script.write nasal, kana] := by
    simp [nasalsIn, Table.keys]
  have keys : rules.contractions.keys.map script.write =
      rules.contractions.entries.map fun entry => script.write entry.1 := by
    simp [Table.keys]
  rw [Rule.Fresh, paths, List.nodup_map_iff (pair_injective _), List.forall_mem_map, keys]
  refine and_congr_right fun _ => ?_
  simp only [pair_mem_contractedIn contracted.lengths, not_and]
  exact ⟨fun fresh alike kana member => fresh kana member alike,
    fun fresh kana member alike => fresh alike kana member⟩

theorem settles_nasals (distinct : (rules.images script).Nodup)
    (contracted : rules.Contracted script rules.contractions.entries) :
    Settles (rules.contractedIn script rules.contractions.entries) (rules.NasalsFit script)
      (rules.nasalsIn script) (rules.addNasals script) := by
  have each (letter : Char) (rest : Text) (listed : ([script.write nasal], letter :: rest) ∈
      rules.contractedIn script rules.contractions.entries) :
      Settles (rules.contractedIn script rules.contractions.entries)
        (Rule.Fresh (rules.contractedIn script rules.contractions.entries)
          (rules.nasalsIn script))
        (rules.nasalsIn script)
        (rules.nasalFollowers.entries.forM fun entry =>
          Build.add [script.write nasal] (script.write entry.1)
            (letter :: Char.ofNat 0x27 :: entry.2)) := by
    have ruled : rules.nasalsIn script = rules.nasalFollowers.entries.map fun entry =>
        ([script.write nasal] ++ [script.write entry.1],
          letter :: Char.ofNat 0x27 :: entry.2) := by
      simp [nasalsIn, tokenIn_eq distinct (single_mem_contractedIn.1 listed)]
    rw [ruled]
    exact Settles.addEach _ _ _ _ fun _ _ => .inr (List.mem_map.2 ⟨_, listed, rfl⟩)
  have both := settles_baseLetter .nasal each
  simp only [single_mem_contractedIn, ← based_iff] at both
  rw [nasalsFit_iff]
  exact both.congr (and_congr_right fun _ => fresh_nasalsIn contracted)

/-! ### Doubled consonants -/

variable (rules script) in
def copiesIn (known : List Rule) : List Rule :=
  let excluded := rules.geminationExclusions.map script.write
  let copied := known.filter fun rule => rule.1.head?.all (!excluded.contains ·)
  if excluded.contains (script.write smallTsu) then copied
  else copied ++ ([script.write smallTsu], []) ::
    copied.map fun rule => (script.write smallTsu :: rule.1, rule.2)

variable (rules script) in
def doublingIn (known : List Rule) : List Rule :=
  ([script.write smallTsu], []) :: (rules.copiesIn script known).map fun rule =>
    (script.write smallTsu :: rule.1, rules.doubled rule.2)

theorem mem_copiesIn {known : List Rule} {rule : Rule}
    (member : rule ∈ rules.copiesIn script known) :
    rule ∈ known ∨ rule.1 = [script.write smallTsu] ∨
      ∃ copy ∈ known, rule.1 = script.write smallTsu :: copy.1 := by
  unfold copiesIn at member
  dsimp only at member
  split at member
  · exact .inl (List.mem_of_mem_filter member)
  · rcases List.mem_append.1 member with copied | nested
    · exact .inl (List.mem_of_mem_filter copied)
    · rcases List.mem_cons.1 nested with rfl | deeper
      · exact .inr (.inl rfl)
      · obtain ⟨copy, listed, rfl⟩ := List.mem_map.1 deeper
        exact .inr (.inr ⟨copy, List.mem_of_mem_filter listed, rfl⟩)

theorem copiesIn_ne_nil {known : List Rule} (filled : ∀ rule ∈ known, rule.1 ≠ []) :
    ∀ rule ∈ rules.copiesIn script known, rule.1 ≠ [] := by
  intro rule member
  rcases mem_copiesIn member with listed | path | ⟨copy, -, path⟩
  · exact filled rule listed
  · simp [path]
  · simp [path]

variable (rules script) in
theorem holds_doublingTree {root : Node Text} {known : List Rule} (holds : root.Holds known)
    (filled : ∀ rule ∈ known, rule.1 ≠ [])
    (fresh : [script.write smallTsu] ∉ known.map Prod.fst) :
    ∃ tree : Node Text, doublingTree (rules.geminationExclusions.map script.write)
        (script.write smallTsu) root = tree ∧ tree.entry = ⟨[], true⟩ ∧
      tree.Holds (rules.copiesIn script known) := by
  let excluded := rules.geminationExclusions.map script.write
  let copies : Node Text := { root.filterKeys (!excluded.contains ·) with entry := ⟨[], true⟩ }
  have copied : copies.Holds (known.filter fun rule => rule.1.head?.all (!excluded.contains ·)) :=
    (holds.filterKeys _).withEntry _
  by_cases barred : excluded.contains (script.write smallTsu) = true
  · refine ⟨copies, by rw [doublingTree, if_pos barred], rfl, ?_⟩
    rw [copiesIn, if_pos barred]
    exact copied
  · refine ⟨copies.plant [] (script.write smallTsu) copies,
      by rw [doublingTree, if_neg barred], rfl, ?_⟩
    rw [copiesIn, if_neg barred]
    refine copied.plant_nil copied rfl (fun rule member => ?_) fun member => ?_
    · exact filled rule (List.mem_of_mem_filter member)
    · obtain ⟨rule, listed, same⟩ := List.mem_map.1 member
      exact fresh (List.mem_map.2 ⟨rule, List.mem_of_mem_filter listed, same⟩)

variable (rules script) in
theorem settles_doubling {known : List Rule} (filled : ∀ rule ∈ known, rule.1 ≠ []) :
    Settles known ([script.write smallTsu] ∉ known.map Prod.fst) (rules.doublingIn script known)
      (rules.addDoubling script) := by
  refine ⟨fun fresh trie holds => ?_, fun taken trie holds => ?_⟩
  · obtain ⟨tree, grown, top, below⟩ := rules.holds_doublingTree script holds.root filled fresh
    have planted := holds.root.plant_nil (below.mapTokens rules.doubled)
      (by simp [Node.mapTokens, top]) (by
        intro rule member
        obtain ⟨copy, listed, rfl⟩ := List.mem_map.1 member
        exact copiesIn_ne_nil filled copy listed) fresh
    refine ⟨⟨trie.root.plant [] (script.write smallTsu) (tree.mapTokens rules.doubled),
      trie.caseInsensitive, trie.placeholder, trie.frozen⟩, ?_,
      ⟨?_, holds.changeable, holds.caseSensitive⟩⟩
    · rw [addDoubling, Steps.run_bind_of_ok (run_root trie)]
      refine run_change_eq_ok.2 (Trie.attach_eq_ok.2 ⟨holds.changeable, ?_, ?_⟩)
      · rw [← Bool.not_eq_true, holds.root.taken_iff]
        exact fresh
      · rw [grown]
    · apply planted.congr
      intro rule
      simp [doublingIn, Node.mapTokens, top, doubled, Function.comp_def]
  · rw [Classical.not_not] at taken
    refine ⟨.duplicateKey (script.write smallTsu) [], trie, ?_, trivial⟩
    rw [addDoubling, Steps.run_bind_of_ok (run_root trie)]
    exact run_change_of_error
      (Trie.attach_of_taken holds.changeable (holds.root.taken_iff.2 taken) _)

/-! ### Long vowels -/

theorem forM_congr {ι : Type} {items : List ι} {first second : ι → Build Unit}
    (same : ∀ item ∈ items, first item = second item) : items.forM first = items.forM second := by
  induction items with
  | nil => rfl
  | cons item items ih =>
      rw [List.forM, List.forM, same item (by simp),
        ih fun next member => same next (by simp [member])]

def prolongsIn (script : Script) (path : Path) (token : Text) : Bool :=
  !decide (path.getLast? = some prolongedSound ∨ token.isEmpty = true) &&
    !path.head?.any ([script.write nasal, script.write smallTsu].contains ·)

theorem prolongable_eq (script : Script) (root : Node Text) :
    prolongable script root = ((root.below.walk []).filter fun found =>
      prolongsIn script found.1 found.2.token).map fun found => (found.1, found.2.token) := by
  unfold prolongable
  dsimp only
  induction root.below.walk [] with
  | nil => rfl
  | cons found walk ih =>
      rw [List.filterMap_cons, ih, List.filter_cons]
      by_cases ended : found.1.getLast? = some prolongedSound ∨ found.2.token.isEmpty = true
      · have kept : prolongsIn script found.1 found.2.token = false := by
          simp only [prolongsIn, ended, decide_true, Bool.not_true, Bool.false_and]
        rw [if_pos ended, if_neg (by simp [kept])]
      rw [if_neg ended]
      by_cases barred :
          found.1.head?.any ([script.write nasal, script.write smallTsu].contains ·) = true
      · rw [if_pos barred, if_neg (by rw [prolongsIn, barred]; simp)]
      · have kept : prolongsIn script found.1 found.2.token = true := by
          rw [Bool.not_eq_true] at barred
          rw [prolongsIn, barred, decide_eq_false ended]
          rfl
        rw [if_neg barred, if_pos kept, List.map_cons]

theorem nodup_prolongable (script : Script) (root : Node Text) :
    ((prolongable script root).map Prod.fst).Nodup := by
  rw [prolongable_eq, List.map_map]
  exact (Node.nodup_walk root.distinct []).sublist (List.filter_sublist.map Prod.fst)

theorem mem_prolongable {script : Script} {root : Node Text} {known : List Rule}
    (holds : root.Holds known) {path : Path} {token : Text} :
    (path, token) ∈ prolongable script root ↔
      path ≠ [] ∧ (path, token) ∈ known ∧ prolongsIn script path token = true := by
  rw [prolongable_eq, List.mem_map]
  constructor
  · rintro ⟨⟨found, entry⟩, member, same⟩
    obtain ⟨rfl, rfl⟩ := Prod.mk.inj same
    obtain ⟨walked, extends_⟩ := List.mem_filter.1 member
    obtain ⟨filled, stands⟩ := Node.mem_walk_iff.1 walked
    obtain ⟨token, listed, rfl⟩ := holds.exists_of_entryAt? filled stands
    exact ⟨filled, listed, extends_⟩
  · rintro ⟨filled, listed, extends_⟩
    refine ⟨(path, ⟨token, some true⟩), List.mem_filter.2 ⟨?_, extends_⟩, rfl⟩
    exact Node.mem_walk_iff.2 ⟨filled, holds.entryAt?_of_mem filled listed⟩

theorem forM_apply (way : LongVowel) {targets : List (Path × Text)}
    (filled : ∀ found ∈ targets, found.2 ≠ []) :
    (targets.forM fun found => do
      let longer ← (way.apply found.2 : Except Failure Text)
      Build.add found.1 prolongedSound longer) =
      targets.forM fun found => Build.add found.1 prolongedSound (way.lengthen found.2) := by
  apply forM_congr
  intro found member
  rw [way.apply_eq_lengthen (filled found member)]
  rfl

variable (rules script) in
def longIn (known : List Rule) : List Rule :=
  (known.filter fun rule => prolongsIn script rule.1 rule.2).map fun rule =>
    (rule.1 ++ [prolongedSound], rules.longVowel.lengthen rule.2)

theorem adds_longVowels {known : List Rule} (filled : ∀ rule ∈ known, rule.1 ≠ [])
    (fresh : ∀ rule ∈ known, prolongsIn script rule.1 rule.2 = true →
      rule.1 ++ [prolongedSound] ∉ known.map Prod.fst) :
    Adds known (rules.longIn script known) (discard (rules.addLongVowels script)) := by
  intro trie holds
  have target {found : Path × Text} : found ∈ prolongable script trie.root ↔
      found ∈ known ∧ prolongsIn script found.1 found.2 = true := by
    rw [mem_prolongable holds.root]
    exact ⟨fun both => both.2, fun both => ⟨filled _ both.1, both⟩⟩
  have lettered : ∀ found ∈ prolongable script trie.root, found.2 ≠ [] := by
    intro found member
    have lasts := (target.1 member).2
    rintro blank
    simp [prolongsIn, blank] at lasts
  have distinct : ((prolongable script trie.root).map (·.1 ++ [prolongedSound])).Nodup := by
    have apart := (nodup_prolongable script trie.root).map
      (List.append_left_injective [prolongedSound])
    rwa [List.map_map] at apart
  obtain ⟨built, ran, grown⟩ := Adds.addEach Prod.fst (fun _ => prolongedSound)
    (fun found => rules.longVowel.lengthen found.2) (prolongable script trie.root)
    (fun found member => .inr (List.mem_map_of_mem (target.1 member).1))
    (fun found member => fresh found (target.1 member).1 (target.1 member).2) distinct trie holds
  refine ⟨built, ?_, grown.root.congr fun rule => ?_, grown.changeable, grown.caseSensitive⟩
  · have all : Steps.run (rules.addLongVowels script) trie =
        (.ok (prolongable script trie.root).length, built) := by
      rw [addLongVowels, Steps.run_bind_of_ok (run_root trie), Steps.run_bind_of_ok
        ((congrArg (Steps.run · trie) (forM_apply rules.longVowel lettered)).trans ran)]
      rfl
    exact Steps.run_bind_of_ok all
  · simp only [List.mem_append, longIn, List.mem_map, List.mem_filter, target]

end RomanizationRules
end Honji
