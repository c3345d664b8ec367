import Honji.Composer.Stages
import Honji.Proofs.Trie.Echoing
import Honji.Proofs.Trie.Order
import Mathlib.Logic.Function.Basic

/-!
The long vowels of the composing trie, told node by node. What the stage adds below a node depends
on the children of that node alone, whatever is added elsewhere before; so it comes to one function
of the siblings that stand below a path.
-/

namespace Honji

abbrev Siblings := Symbol → Option (Entry Text)

def Node.siblings (node : Node Text) (path : Path) : Siblings :=
  fun symbol => node.entryAt? (path ++ [symbol])

namespace ComposerRules
open Build
variable (rules : ComposerRules) (script : Script)

def endingOf (vowel : Text) : Text :=
  match rules.prolongation script vowel with
  | .ok ending => ending
  | .error _ => []

def withMark (siblings : Siblings) (mark : Text × Text) : Siblings :=
  match siblings mark.2 with
  | none => siblings
  | some entry => Function.update siblings mark.1
      (some ⟨entry.token ++ rules.endingOf script mark.2, some true⟩)

def withMarks (siblings : Siblings) : Siblings :=
  if rules.longVowelSuffixes.keys.any (siblings · |>.isSome) then
    rules.longVowelMarks.entries.foldl (rules.withMark script) siblings
  else siblings

structure Reworked (path : Path) (change : Siblings → Siblings) (before after : Node Text) :
    Prop where
  kept : ∀ query entry, before.entryAt? query = some entry → after.entryAt? query = some entry
  here : after.siblings path = change (before.siblings path)
  others : ∀ other, other ≠ path → after.siblings other = before.siblings other

variable {rules script} {path : Path}

theorem withMark_of_eq_none {siblings : Siblings} {mark : Text × Text}
    (missing : siblings mark.2 = none) : rules.withMark script siblings mark = siblings := by
  rw [withMark, missing]

theorem withMark_of_eq_some {siblings : Siblings} {mark : Text × Text} {entry : Entry Text}
    (stands : siblings mark.2 = some entry) : rules.withMark script siblings mark =
      Function.update siblings mark.1
        (some ⟨entry.token ++ rules.endingOf script mark.2, some true⟩) := by
  rw [withMark, stands]

theorem Reworked.refl (node : Node Text) : Reworked path id node node :=
  ⟨fun _ _ => id, rfl, fun _ _ => rfl⟩

theorem Reworked.trans {first second third : Node Text} {change further : Siblings → Siblings}
    (reworked : Reworked path change first second) (next : Reworked path further second third) :
    Reworked path (further ∘ change) first third where
  kept := fun query entry stands => next.kept query entry (reworked.kept query entry stands)
  here := by rw [next.here, reworked.here]; rfl
  others := fun other apart => by rw [next.others other apart, reworked.others other apart]

theorem reworked_addLongVowel (before : Node Text) (path : Path) (mark : Text × Text) :
    Ends (·.root = before) (rules.addLongVowel script path mark.1 mark.2) fun _ trie =>
      Reworked path (rules.withMark script · mark) before trie.root := by
  refine Ends.root_eq.bind fun root trie built value start ran => ?_
  obtain ⟨rfl, rfl⟩ := start
  split at ran
  · next missing =>
    cases ran
    have absent : trie.root.siblings path mark.2 = none := Node.entryAt?_eq_none_iff.2 missing
    exact ⟨fun _ _ => id, (withMark_of_eq_none absent).symm, fun _ _ => rfl⟩
  · next vowel found =>
    obtain ⟨ending, _, lifted, rest⟩ := Steps.run_bind_eq_ok.1 ran
    obtain ⟨said, rfl⟩ := Prod.mk.inj ((Steps.run_lift _ _).symm.trans lifted)
    obtain ⟨_, between, ranOn, ⟨⟩⟩ := Steps.run_bind_eq_ok.1 rest
    have stands : trie.root.siblings path mark.2 = some vowel.entry :=
      Option.map_eq_some_iff.2 ⟨vowel, found, rfl⟩
    have parent : trie.root.entryAt? path ≠ none :=
      Trie.entryAt?_of_prefix (List.prefix_append path [mark.2]) (by
        rw [Node.siblings] at stands
        simp [stands])
    obtain ⟨fresh, entries, -⟩ := Trie.add_spec (run_change_eq_ok.1 ranOn) parent
    have ends : rules.endingOf script mark.2 = ending := by rw [endingOf, said]
    refine ⟨fun query entry there => ?_, ?_, fun other apart => ?_⟩
    · rw [entries, if_neg, there]
      rintro rfl
      rw [fresh] at there
      cases there
    · funext symbol
      rw [withMark_of_eq_some stands, Function.update_apply, Node.siblings, entries, ends]
      by_cases same : symbol = mark.1
      · rw [if_pos (by rw [same]), if_pos same]
      · rw [if_neg (by simpa using Ne.symm same), if_neg same]
        rfl
    · funext symbol
      rw [Node.siblings, entries, if_neg]
      · rfl
      · intro same
        exact apart (List.append_inj_left' same rfl).symm

theorem reworked_mapM (before : Node Text) (path : Path) (marks : List (Text × Text)) :
    Ends (·.root = before)
      (marks.mapM fun mark => rules.addLongVowel script path mark.1 mark.2) fun _ trie =>
        Reworked path (marks.foldl (rules.withMark script)) before trie.root := by
  let left (done : List (Text × Text)) (trie : Trie Text) : Prop :=
    Reworked path (done.foldl (rules.withMark script)) before trie.root
  have rounds : Ends (left [])
      (marks.mapM fun mark => rules.addLongVowel script path mark.1 mark.2) fun _ => left marks :=
    Ends.mapM_left left marks fun done mark _ _ trie built _ reworked ran => by
      have next := reworked.trans (reworked_addLongVowel trie.root path mark rfl ran)
      simpa only [left, Function.comp_def, List.foldl_append, List.foldl_cons, List.foldl_nil]
        using next
  rintro trie built _ rfl ran
  exact rounds (Reworked.refl trie.root) ran

theorem mem_prolongable_iff {root : Node Text} : path ∈ rules.prolongable root ↔
    rules.longVowelSuffixes.keys.any (root.siblings path · |>.isSome) = true := by
  have led (vowel : Symbol) :
      (root.siblings path vowel).isSome = (root.keysAt path).contains vowel := by
    rw [Bool.eq_iff_iff, Option.isSome_iff_ne_none, List.contains_iff_mem, Node.mem_keysAt_iff]
    rfl
  rw [prolongable, List.mem_filter, Node.mem_paths_iff, Ne, Node.entryAt?_eq_none_iff]
  simp only [led, Node.keysAt]
  cases root.find? path <;> simp

theorem nodup_prolongable (rules : ComposerRules) (root : Node Text) :
    (rules.prolongable root).Nodup :=
  root.nodup_paths.filter _

structure Marked (rules : ComposerRules) (script : Script) (before after : Node Text) : Prop where
  kept : ∀ path entry, before.entryAt? path = some entry → after.entryAt? path = some entry
  siblings : ∀ path, after.siblings path = rules.withMarks script (before.siblings path)

theorem marked_addLongVowels (before : Node Text) :
    Ends (·.root = before) (rules.addLongVowels script) fun _ trie =>
      Marked rules script before trie.root := by
  refine Ends.root_eq.bind fun root trie built value start ran => ?_
  obtain ⟨rfl, rfl⟩ := start
  -- the nodes gone through have all their long vowels, the others are as they were
  let left (done : List Path) (reached : Trie Text) : Prop :=
    (∀ path entry, trie.root.entryAt? path = some entry →
      reached.root.entryAt? path = some entry) ∧
    ∀ path, reached.root.siblings path =
      if path ∈ done then
        rules.longVowelMarks.entries.foldl (rules.withMark script) (trie.root.siblings path)
      else trie.root.siblings path
  have loop : Ends (left []) ((rules.prolongable trie.root).mapM fun path => do
      let marks ← rules.longVowelMarks.entries.mapM fun mark =>
        rules.addLongVowel script path mark.1 mark.2
      return marks.foldl (· + ·) 0) fun _ => left (rules.prolongable trie.root) :=
    Ends.mapM_left left _ fun done target rest whole reached next _ stands ran => by
      obtain ⟨_, _, ranOn, ⟨⟩⟩ := Steps.run_bind_eq_ok.1 ran
      have reworked := reworked_mapM reached.root target _ rfl ranOn
      have new : target ∉ done := by
        have distinct := whole ▸ nodup_prolongable rules trie.root
        exact fun member => (List.nodup_append.1 distinct).2.2 _ member _ List.mem_cons_self rfl
      refine ⟨fun path entry there => reworked.kept path entry (stands.1 path entry there),
        fun path => ?_⟩
      by_cases same : path = target
      · rw [same, reworked.here, stands.2, if_neg new, if_pos (by simp)]
      · rw [reworked.others path same, stands.2]
        simp [same]
  obtain ⟨_, between, looped, ⟨⟩⟩ := Steps.run_bind_eq_ok.1 ran
  obtain ⟨kept, siblings⟩ := loop ⟨fun _ _ => id, fun _ => rfl⟩ looped
  refine ⟨kept, fun path => ?_⟩
  rw [siblings, withMarks]
  exact if_congr mem_prolongable_iff rfl rfl

end ComposerRules
end Honji
