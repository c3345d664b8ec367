import Honji.Proofs.Forest.Incidents
import Honji.Proofs.Forest.Overlay
import Honji.Proofs.Trie.MergeAlgebra

/-!
The algebra of merging stored tries. Whatever happened to a forest, tries that are merged in groups
come to what they come to at once; a trie without rules adds nothing, nor does a trie that is merged
with itself. All tries are compared by their nodes below the root, siblings in order.
-/

namespace Honji
namespace Trie
variable {α : Type} [Token α] {resolve : Resolver α}

structure Matches (first second : Trie α) : Prop where
  below : first.root.below = second.root.below
  caseInsensitive : first.caseInsensitive = second.caseInsensitive

theorem below_merged (resolve : Resolver α) (tries : List (Trie α)) (caseInsensitive : Choice) :
    (merged resolve tries caseInsensitive).root.below =
      tries.foldl (fun below trie => below.merge resolve trie.root.below) .nil := by
  have laid (root : Node α) :
      (tries.foldl (fun root trie => root.merge resolve trie.root) root).below =
        tries.foldl (fun below trie => below.merge resolve trie.root.below) root.below := by
    induction tries generalizing root with
    | nil => rfl
    | cons trie rest ih => exact ih _
  cases tries <;> exact laid _

theorem matches_merged_left (first second third : Trie α) :
    (merged resolve [merged resolve [first, second] none, third] none).Matches
      (merged resolve [first, second, third] none) where
  below := by simp [below_merged, Branches.merge]
  caseInsensitive := rfl

theorem matches_merged_right (plain : resolve.Plain) (associative : resolve.Associative)
    (first second third : Trie α) :
    (merged resolve [first, merged resolve [second, third] none] none).Matches
      (merged resolve [first, second, third] none) where
  below := by simp [below_merged, Branches.merge, Branches.merge_assoc plain associative]
  caseInsensitive := rfl

theorem matches_merged_blank {blank : Trie α} (bare : blank.root.below = .nil) (trie : Trie α) :
    (merged resolve [trie, blank] none).Matches trie where
  below := by simp [below_merged, Branches.merge, Branches.merge_nil, bare]
  caseInsensitive := rfl

theorem matches_blank_merged {blank trie : Trie α} (bare : blank.root.below = .nil)
    (alike : blank.caseInsensitive = trie.caseInsensitive) :
    (merged resolve [blank, trie] none).Matches trie where
  below := by simp [below_merged, Branches.merge, bare]
  caseInsensitive := alike

theorem matches_merged_self (plain : resolve.Plain) (idempotent : resolve.Idempotent)
    (trie : Trie α) :
    (merged resolve [trie, trie] none).Matches trie where
  below := by simp [below_merged, Branches.merge, Branches.merge_self plain idempotent]
  caseInsensitive := rfl

theorem token_merged_later (first second : Trie α) {path : Path} {entry : Entry α}
    (there : second.root.entryAt? path = some entry) :
    ((merged Resolver.later [first, second] none).root.entryAt? path).map (·.token) =
      some entry.token := by
  have overlaid (root : Node α) :
      ((root.merge Resolver.later second.root).entryAt? path).map (·.token) =
        some entry.token := by
    rw [Node.entryAt?_merge Resolver.plain_later, there]
    cases root.entryAt? path <;> rfl
  exact overlaid _

end Trie

namespace RootedTrie
variable {α : Type} {before after forest : Forest α} {resolve : Resolver α}

structure Means (forest : Forest α) (trie : RootedTrie α) (value : Trie α) : Prop where
  stands : ∃ layout, forest.Stands trie.root layout
  read : trie.read forest = value

theorem Means.grow {trie : RootedTrie α} {value : Trie α} (means : Means before trie value)
    (grows : Forest.Grows [] before after) : Means after trie value := by
  obtain ⟨⟨layout, stands⟩, read⟩ := means
  exact ⟨⟨layout, stands.grow grows⟩, (read_grow stands grows).trans read⟩

variable [Token α]

theorem run_merged_of_means (plain : resolve.Plain) {tries : List (RootedTrie α)}
    {values : List (Trie α)} (means : List.Forall₂ (Means forest) tries values) :
    ∃ laid after, Steps.run (merged resolve tries none) forest = (.ok laid, after) ∧
      Forest.Grows [] forest after ∧ Means after laid (Trie.merged resolve values none) := by
  have known : (∀ trie ∈ tries, ∃ layout, forest.Stands trie.root layout) ∧
      tries.map (·.read forest) = values := by
    induction means with
    | nil => exact ⟨by simp, rfl⟩
    | cons meant _ ih =>
        exact ⟨List.forall_mem_cons.2 ⟨meant.stands, ih.1⟩, by rw [List.map_cons, meant.read, ih.2]⟩
  obtain ⟨stand, reads⟩ := known
  obtain ⟨laid, after, ran, -, gained, read⟩ := run_merged resolve tries stand none
  obtain ⟨layout, stands, -⟩ := gained.stands
  exact ⟨laid, after, ran, gained.grows, ⟨layout, stands⟩, reads ▸ read plain⟩

def regroup (resolve : Resolver α) (first second third : RootedTrie α) :
    ForestM α (RootedTrie α × RootedTrie α × RootedTrie α) := do
  let early ← merged resolve [first, second] none
  let left ← merged resolve [early, third] none
  let late ← merged resolve [second, third] none
  let right ← merged resolve [first, late] none
  let flat ← merged resolve [first, second, third] none
  return (left, right, flat)

theorem run_regroup {first second third : RootedTrie α} {one two three : Trie α}
    (meansOne : Means forest first one) (meansTwo : Means forest second two)
    (meansThree : Means forest third three) (plain : resolve.Plain) :
    ∃ left right flat after,
      Steps.run (regroup resolve first second third) forest = (.ok (left, right, flat), after) ∧
        Means after left
          (Trie.merged resolve [Trie.merged resolve [one, two] none, three] none) ∧
        Means after right
          (Trie.merged resolve [one, Trie.merged resolve [two, three] none] none) ∧
        Means after flat (Trie.merged resolve [one, two, three] none) := by
  obtain ⟨early, forestA, ranA, growsA, meansEarly⟩ :=
    run_merged_of_means plain (.cons meansOne (.cons meansTwo .nil))
  obtain ⟨left, forestB, ranB, growsB, meansLeft⟩ :=
    run_merged_of_means plain (.cons meansEarly (.cons (meansThree.grow growsA) .nil))
  have growsAB := growsA.trans growsB (by simp)
  obtain ⟨late, forestC, ranC, growsC, meansLate⟩ := run_merged_of_means plain
    (.cons (meansTwo.grow growsAB) (.cons (meansThree.grow growsAB) .nil))
  have growsAC := growsAB.trans growsC (by simp)
  obtain ⟨right, forestD, ranD, growsD, meansRight⟩ :=
    run_merged_of_means plain (.cons (meansOne.grow growsAC) (.cons meansLate .nil))
  have growsAD := growsAC.trans growsD (by simp)
  obtain ⟨flat, forestE, ranE, growsE, meansFlat⟩ := run_merged_of_means plain
    (.cons (meansOne.grow growsAD) (.cons (meansTwo.grow growsAD)
      (.cons (meansThree.grow growsAD) .nil)))
  refine ⟨left, right, flat, forestE, ?_, ?_, meansRight.grow growsE, meansFlat⟩
  · rw [regroup, Steps.run_bind_of_ok ranA, Steps.run_bind_of_ok ranB, Steps.run_bind_of_ok ranC,
      Steps.run_bind_of_ok ranD, Steps.run_bind_of_ok ranE]
    rfl
  · exact meansLeft.grow ((growsC.trans growsD (by simp)).trans growsE (by simp))

end RootedTrie

namespace Woods
variable {α : Type} [Token α] {woods : Woods α} {resolve : Resolver α}

structure MergeLaws (woods : Woods α) (resolve : Resolver α) : Prop where
  regrouped : ∀ first ∈ woods.tries, ∀ second ∈ woods.tries, ∀ third ∈ woods.tries,
    ∃ left right flat after,
      Steps.run (RootedTrie.regroup resolve first second third) woods.forest =
        (.ok (left, right, flat), after) ∧
      (left.read after).Matches (flat.read after) ∧ (right.read after).Matches (flat.read after)
  blank : ∀ trie ∈ woods.tries, ∀ blank ∈ woods.tries,
    (blank.read woods.forest).root.below = .nil →
      blank.caseInsensitive.taken = trie.caseInsensitive.taken →
        ∀ tries ∈ [[trie, blank], [blank, trie]], ∃ laid after,
          Steps.run (RootedTrie.merged resolve tries none) woods.forest = (.ok laid, after) ∧
            (laid.read after).Matches (trie.read woods.forest)
  twice : ∀ trie ∈ woods.tries, ∃ laid after,
    Steps.run (RootedTrie.merged resolve [trie, trie] none) woods.forest = (.ok laid, after) ∧
      (laid.read after).Matches (trie.read woods.forest)

def Prevails (woods : Woods α) (resolve : Resolver α) : Prop :=
  ∀ first ∈ woods.tries, ∀ second ∈ woods.tries, ∃ laid after,
    Steps.run (RootedTrie.merged resolve [first, second] none) woods.forest = (.ok laid, after) ∧
      ∀ path entry, (second.read woods.forest).root.entryAt? path = some entry →
        ((laid.read after).root.entryAt? path).map (·.token) = some entry.token

omit [Token α] in
theorem Tended.means (tended : woods.Tended) {trie : RootedTrie α} (made : trie ∈ woods.tries) :
    RootedTrie.Means woods.forest trie (trie.read woods.forest) :=
  ⟨tended.exists_stands made, rfl⟩

theorem Tended.mergeLaws (tended : woods.Tended) (plain : resolve.Plain)
    (associative : resolve.Associative) (idempotent : resolve.Idempotent) : woods.MergeLaws resolve where
  regrouped := by
    intro first madeFirst second madeSecond third madeThird
    obtain ⟨left, right, flat, after, ran, meansLeft, meansRight, meansFlat⟩ :=
      RootedTrie.run_regroup (tended.means madeFirst) (tended.means madeSecond)
        (tended.means madeThird) plain
    refine ⟨left, right, flat, after, ran, ?_⟩
    rw [meansLeft.read, meansRight.read, meansFlat.read]
    exact ⟨Trie.matches_merged_left _ _ _, Trie.matches_merged_right plain associative _ _ _⟩
  blank := by
    intro trie made blank blankMade bare alike tries either
    have same : (blank.read woods.forest).caseInsensitive =
        (trie.read woods.forest).caseInsensitive := by simp [alike]
    obtain rfl | rfl : tries = [trie, blank] ∨ tries = [blank, trie] := by simpa using either
    · obtain ⟨laid, after, ran, -, means⟩ := RootedTrie.run_merged_of_means
        plain (.cons (tended.means made) (.cons (tended.means blankMade) .nil))
      exact ⟨laid, after, ran, means.read ▸ Trie.matches_merged_blank bare _⟩
    · obtain ⟨laid, after, ran, -, means⟩ := RootedTrie.run_merged_of_means
        plain (.cons (tended.means blankMade) (.cons (tended.means made) .nil))
      exact ⟨laid, after, ran, means.read ▸ Trie.matches_blank_merged bare same⟩
  twice := by
    intro trie made
    obtain ⟨laid, after, ran, -, means⟩ := RootedTrie.run_merged_of_means
      plain (.cons (tended.means made) (.cons (tended.means made) .nil))
    exact ⟨laid, after, ran, means.read ▸ Trie.matches_merged_self plain idempotent _⟩

theorem Tended.prevails (tended : woods.Tended) : woods.Prevails Resolver.later := by
  intro first madeFirst second madeSecond
  obtain ⟨laid, after, ran, -, means⟩ := RootedTrie.run_merged_of_means
    Resolver.plain_later (.cons (tended.means madeFirst) (.cons (tended.means madeSecond) .nil))
  refine ⟨laid, after, ran, fun path entry there => ?_⟩
  rw [means.read]
  exact Trie.token_merged_later _ _ there

/--
Whatever happened to a forest, its tries can be merged in any groups and with the same outcome, and
neither a trie without rules nor a trie itself adds anything to it. If the later token counts, the
second trie prevails.
-/
theorem mergeLaws_undergoAll {incidents : List (Incident α)}
    (admitted : (bare : Woods α).AdmitsAll incidents) :
    (∀ resolve ∈ [Resolver.later, Resolver.ruled, Resolver.earlier],
      (bare.undergoAll incidents).MergeLaws resolve) ∧
      (bare.undergoAll incidents).Prevails Resolver.later := by
  have tended := tended_bare.undergoAll admitted
  refine ⟨fun resolve usual => ?_, tended.prevails⟩
  obtain rfl | rfl | rfl : resolve = Resolver.later ∨ resolve = Resolver.ruled ∨
      resolve = Resolver.earlier := by simpa using usual
  · exact tended.mergeLaws Resolver.plain_later Resolver.associative_later Resolver.idempotent_later
  · exact tended.mergeLaws Resolver.plain_ruled Resolver.associative_ruled Resolver.idempotent_ruled
  · exact tended.mergeLaws Resolver.plain_earlier Resolver.associative_earlier Resolver.idempotent_earlier

def kennel : List (Incident Text) :=
  [.operation (.createTrie (some false) []),
    .operation (.insert ⟨0, some false, []⟩ (Path.ofText "いぬ".toList) "inu".toList),
    .operation (.insert ⟨0, some false, []⟩ (Path.ofText "ね".toList) "ne".toList),
    .operation (.createTrie (some false) []),
    .operation (.insert ⟨4, some false, []⟩ (Path.ofText "い".toList) "i".toList),
    .operation (.createTrie none []),
    .operation (.insert ⟨6, none, []⟩ (Path.ofText "いぬ".toList) "dog".toList),
    .operation (.createTrie none [])]

theorem mergeLaws_kennel :
    bare.AdmitsAll kennel ∧
      (bare.undergoAll kennel).tries =
        [⟨9, none, []⟩, ⟨6, none, []⟩, ⟨4, some false, []⟩, ⟨0, some false, []⟩] ∧
      (bare.undergoAll kennel).MergeLaws Resolver.ruled ∧
      (bare.undergoAll kennel).Prevails Resolver.later := by
  have admitted : bare.AdmitsAll kennel := by decide +kernel
  have made : (bare.undergoAll kennel).tries =
      [⟨9, none, []⟩, ⟨6, none, []⟩, ⟨4, some false, []⟩, ⟨0, some false, []⟩] := by
    decide +kernel
  obtain ⟨laws, prevails⟩ := mergeLaws_undergoAll admitted
  exact ⟨admitted, made, laws _ (by simp), prevails⟩

end Woods
end Honji
