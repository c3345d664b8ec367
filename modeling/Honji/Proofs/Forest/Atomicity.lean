import Honji.Proofs.Forest.Sparing
import Honji.Proofs.Forest.Grafting

/-!
What a refused operation leaves. An operation that adds several children keeps those that it added
before one was refused; every other one leaves all nodes and tries as they were. An insertion checks
nothing any more once it has added a node, since new nodes can be changed, and a merge meets no
frozen node below one that is not frozen, unless it was orphaned and attached there.
-/

namespace Honji
namespace Forest
open Steps (Succeeds)
variable {α β γ : Type} {before between after forest : Forest α} {node parent target : Nat}
  {symbol : Symbol}

/-- A computation that leaves the forest as it was if it is refused. -/
def AllOrNothing (steps : ForestM α β) (forest : Forest α) : Prop :=
  ∀ failure after, Steps.run steps forest = (.error failure, after) → after = forest

namespace AllOrNothing

theorem throw (failure : Failure) : AllOrNothing (throw failure : ForestM α β) forest :=
  fun _ _ fails => (Prod.mk.inj fails).2.symm

theorem of_succeeds {steps : ForestM α β} (succeeds : Succeeds steps forest) :
    AllOrNothing steps forest := by
  intro failure after fails
  obtain ⟨value, final, ran⟩ := succeeds
  cases ran.symm.trans fails

theorem bind {first : ForestM α β} {next : β → ForestM α γ} (here : AllOrNothing first before)
    (goesOn : ∀ value between, Steps.run first before = (.ok value, between) →
      Succeeds (next value) between) : AllOrNothing (first >>= next) before := by
  intro failure after fails
  rw [Steps.run_bind] at fails
  rcases ran : Steps.run first before with ⟨refused | value, between⟩ <;> rw [ran] at fails
  · obtain ⟨-, rfl⟩ := Prod.mk.inj fails
    exact here refused between ran
  · exact absurd fails (by
      obtain ⟨last, final, ranOn⟩ := goesOn value between ran
      simp [ranOn])

theorem check {first : ForestM α β} {next : β → ForestM α γ}
    (same : ∀ outcome after, Steps.run first before = (outcome, after) → after = before)
    (goesOn : ∀ value, Steps.run first before = (.ok value, before) →
      AllOrNothing (next value) before) : AllOrNothing (first >>= next) before := by
  intro failure after fails
  rw [Steps.run_bind] at fails
  rcases ran : Steps.run first before with ⟨refused | value, between⟩ <;> rw [ran] at fails <;>
    obtain rfl := same _ between ran
  · exact (Prod.mk.inj fails).2.symm
  · exact goesOn value ran failure after fails

end AllOrNothing

/-! ### Operations on nodes -/

theorem checkMutable_same (node : Nat) (forest : Forest α) :
    ∀ outcome after, Steps.run (checkMutable node) forest = (outcome, after) → after = forest := by
  intro outcome after ran
  obtain ⟨reached, same⟩ := run_checkMutable_cases node forest
  exact (Prod.mk.inj (ran.symm.trans same)).2

theorem checkFree_same (parent : Nat) (symbol : Symbol) (forest : Forest α) :
    ∀ outcome after, Steps.run (checkFree parent symbol) forest = (outcome, after) →
      after = forest := by
  intro outcome after ran
  rcases run_checkFree_cases parent symbol forest with ⟨failure, same⟩ | ⟨-, same⟩ <;>
    exact (Prod.mk.inj (ran.symm.trans same)).2

theorem succeeds_setToken (changeable : forest.Changeable [node]) (token : α) :
    Succeeds (setToken node token) forest :=
  .bind ⟨_, _, run_checkMutable_of_changeable changeable⟩ fun _ _ _ => ⟨_, _, rfl⟩

theorem allOrNothing_setToken (node : Nat) (token : α) (forest : Forest α) :
    AllOrNothing (setToken node token) forest :=
  .check (checkMutable_same node forest) fun _ _ => .of_succeeds ⟨_, _, rfl⟩

theorem allOrNothing_add (parent : Nat) (symbol : Symbol) (entry : Entry α) (forest : Forest α) :
    AllOrNothing (add parent symbol entry) forest :=
  .check (checkMutable_same parent forest) fun _ _ =>
    .check (checkFree_same parent symbol forest) fun _ _ =>
      .of_succeeds (succeeds_growChild parent symbol entry forest)

theorem allOrNothing_addKeyed (parent : Nat) (key : Option Symbol) (entry : Entry α)
    (forest : Forest α) : AllOrNothing (addKeyed parent key entry) forest := by
  cases key with
  | some symbol => exact allOrNothing_add parent symbol entry forest
  | none => exact .check (checkMutable_same parent forest) fun _ _ => .throw _

theorem allOrNothing_attach (parent child : Nat) (forest : Forest α) :
    AllOrNothing (attach parent child) forest := by
  intro failure after fails
  rcases run_attach_cases parent child forest with ⟨outcome, ran, -⟩ | ⟨attached, ran, -⟩
  · exact (Prod.mk.inj (fails.symm.trans ran)).2
  · cases fails.symm.trans ran

theorem addMany_cons (rule : Option Symbol × α) (rules : List (Option Symbol × α)) :
    addMany parent (rule :: rules) = do
      let child ← addKeyed parent rule.1 ⟨rule.2, true⟩
      let added ← addMany parent rules
      return child :: added :=
  List.mapM_cons

theorem run_addMany_of_error {rules : List (Option Symbol × α)} {failure : Failure}
    (fails : Steps.run (addMany parent rules) forest = (.error failure, after)) :
    ∃ done rule rest added, rules = done ++ rule :: rest ∧
      Steps.run (addMany parent done) forest = (.ok added, after) ∧
      Steps.run (addKeyed parent rule.1 ⟨rule.2, true⟩) after = (.error failure, after) := by
  induction rules generalizing forest with
  | nil => cases fails
  | cons rule rules ih =>
      rw [addMany_cons, Steps.run_bind] at fails
      rcases ran : Steps.run (addKeyed parent rule.1 ⟨rule.2, true⟩) forest with
        ⟨refused | child, between⟩ <;> rw [ran] at fails
      · obtain ⟨same, rfl⟩ := Prod.mk.inj fails
        obtain rfl := Except.error.inj same
        obtain rfl := allOrNothing_addKeyed parent rule.1 _ forest refused between ran
        exact ⟨[], rule, rules, [], rfl, rfl, ran⟩
      · simp only at fails
        rw [Steps.run_bind] at fails
        rcases ranOn : Steps.run (addMany parent rules) between with
          ⟨refused | added, final⟩ <;> rw [ranOn] at fails
        · obtain ⟨same, rfl⟩ := Prod.mk.inj fails
          obtain rfl := Except.error.inj same
          obtain ⟨done, here, rest, added, rfl, passed, refusedHere⟩ := ih ranOn
          refine ⟨rule :: done, here, rest, child :: added, rfl, ?_, refusedHere⟩
          rw [addMany_cons, Steps.run_bind_of_ok ran, Steps.run_bind_of_ok passed]
          rfl
        · cases fails

/-! ### Storing trees -/

theorem succeeds_plant (key : Option Symbol) (entry : Entry α) (below : Branches α)
    (forest : Forest α) : Succeeds (plant key entry below) forest :=
  .bind ⟨_, _, rfl⟩ fun node grown _ =>
    (succeeds_sow below node grown).bind fun _ sown _ => ⟨node, sown, rfl⟩

theorem succeeds_duplicate (node : Nat) (withChildren : Bool) (forest : Forest α) :
    Succeeds (duplicate node withChildren) forest := by
  refine .read ?_
  split
  · exact succeeds_plant ..
  · exact ⟨node, forest, rfl⟩

theorem succeeds_freeze (node : Nat) (forest : Forest α) : Succeeds (freeze node) forest :=
  .read (.forM (fun _ => True) (fun _ _ _ _ => ⟨⟨_, _, rfl⟩, trivial⟩) trivial)

/-! ### Merging -/

/-- A merge is refused at its target or not at all, if a target that can be changed receives all. -/
theorem allOrNothing_merge (owned : forest.Owned) (inside : target < forest.cells.size)
    (resolve : Resolver α) {source : Nat}
    (clear : forest.Changeable [target] → forest.Receives target source) :
    AllOrNothing (merge resolve target source) forest := by
  cases read : forest.tree? source with
  | none =>
      refine .of_succeeds (.read ?_)
      rw [read]
      exact ⟨(), forest, rfl⟩
  | some tree =>
      by_cases loose : forest.Changeable [target]
      · have hinges := hinges_merge resolve inside owned.linked_children read
        exact .of_succeeds (hinges.succeeds ((clear loose).takes owned read))
      · intro failure after fails
        rw [merge, Steps.run_bind_of_ok (Steps.run_get forest), read] at fails
        rcases run_meet_cases (resolve.beneath (forest.path target) (forest.path source)) target
          tree.sight forest with ⟨-, refused⟩ | ⟨free, -⟩
        · simp only [Steps.run_bind, refused] at fails
          exact (Prod.mk.inj fails).2.symm
        · exact absurd free loose

theorem Sprouts.succeeds_merge (sprouts : before.Sprouts after) (linked : after.Linked)
    (new : before.cells.size ≤ target) (inside : target < after.cells.size)
    (resolve : Resolver α) (source : Nat) : Succeeds (merge resolve target source) after := by
  cases read : after.tree? source with
  | none =>
      refine .read ?_
      rw [read]
      exact ⟨(), after, rfl⟩
  | some tree =>
      exact (hinges_merge resolve inside linked read).succeeds (Takes.of_new sprouts new tree)

end Forest

/-! ### Operations on tries -/

namespace RootedTrie
open Forest
open Steps (Succeeds)
variable {α : Type} {forest : Forest α} (trie : RootedTrie α)

theorem run_walk_of_fresh (path : Path) {node : NodeId} {cell : Cell α}
    (there : forest.cell? node = some cell) (bare : cell.children = [])
    (loose : forest.Changeable [node]) : ∃ last after,
      Steps.run (path.foldlM trie.childOrNew node) forest = (.ok last, after) ∧
        after.Changeable [last] := by
  induction path generalizing forest node cell with
  | nil => exact ⟨node, forest, rfl, loose⟩
  | cons symbol path ih =>
      have free : forest.child? node (trie.normalize symbol) = none := by
        simp [Forest.child?, there, bare]
      obtain ⟨grown, ran, -, child, -⟩ :=
        run_growChild there (trie.normalize symbol) ⟨trie.placeholder, false⟩
      obtain ⟨last, after, ranOn, changeable⟩ :=
        ih child rfl (changeable_single_iff.2 (by rw [child]; rfl))
      refine ⟨last, after, ?_, changeable⟩
      rw [List.foldlM_cons, childOrNew, bind_assoc, Steps.run_bind_of_ok (Steps.run_get forest)]
      simp only [child?, free]
      rw [Steps.run_bind_of_ok ((run_add loose free _).trans ran), ranOn]

/--
On the way to the end of a path the first node that is missing may be refused; if none is missing,
nothing is changed, and otherwise the last one is new.
-/
theorem run_walk_cases (path : Path) {node : NodeId} (inside : node < forest.cells.size)
    (linked : forest.Linked) :
    (∃ outcome, Steps.run (path.foldlM trie.childOrNew node) forest = (outcome, forest)) ∨
      ∃ last after, Steps.run (path.foldlM trie.childOrNew node) forest = (.ok last, after) ∧
        after.Changeable [last] := by
  induction path generalizing node with
  | nil => exact .inl ⟨.ok node, rfl⟩
  | cons symbol path ih =>
      rw [List.foldlM_cons, childOrNew, bind_assoc, Steps.run_bind_of_ok (Steps.run_get forest)]
      cases led : trie.child? forest node symbol with
      | some child => exact ih (linked node child (mem_childrenOf_of_child? led))
      | none =>
          obtain ⟨cell, there⟩ := exists_cell_of_lt inside
          simp only
          rcases checkMutable_cases node forest with ⟨-, fails⟩ | ⟨loose, -⟩
          · rw [add, bind_assoc, Steps.run_bind, fails]
            exact .inl ⟨_, rfl⟩
          · obtain ⟨grown, ran, -, child, -⟩ :=
              run_growChild there (trie.normalize symbol) ⟨trie.placeholder, false⟩
            rw [Steps.run_bind_of_ok ((run_add loose led _).trans ran)]
            exact .inr (trie.run_walk_of_fresh path child rfl
              (changeable_single_iff.2 (by rw [child]; rfl)))

theorem allOrNothing_insert (inside : trie.root < forest.cells.size) (linked : forest.Linked)
    (path : Path) (token : α) : AllOrNothing (trie.insert path token) forest := by
  unfold insert
  split
  · exact .throw _
  · have written (node : NodeId) (reached : Forest α) :
        Succeeds (do
          update node ({ · with terminal := some true })
          return node) reached := ⟨_, _, rfl⟩
    rcases trie.run_walk_cases path inside linked with ⟨outcome, ran⟩ | ⟨last, after, ran, loose⟩
    · refine .check (fun _ after other => (Prod.mk.inj (other.symm.trans ran)).2) fun node _ => ?_
      exact (allOrNothing_setToken node token forest).bind fun _ between _ => written node between
    · refine .of_succeeds (.bind ⟨_, _, ran⟩ fun node between other => ?_)
      obtain ⟨same, rfl⟩ := Prod.mk.inj (other.symm.trans ran)
      obtain rfl := Except.ok.inj same
      exact (succeeds_setToken loose token).bind fun _ between _ => written node between

theorem succeeds_create (caseInsensitive : Choice) (placeholder : α) (forest : Forest α) :
    Succeeds (create caseInsensitive placeholder) forest :=
  ⟨_, _, rfl⟩

theorem succeeds_duplicate (forest : Forest α) : Succeeds trie.duplicate forest :=
  (Forest.succeeds_duplicate trie.root true forest).bind fun _ between _ => ⟨_, between, rfl⟩

variable [Token α]

theorem allOrNothing_ofSource (caseInsensitive : Choice) (source : RuleSource α)
    (forest : Forest α) : AllOrNothing (ofSource caseInsensitive source) forest := by
  cases source with
  | grown trie => exact .of_succeeds ⟨trie, forest, rfl⟩
  | written mapping =>
      refine .check (fun _ after ran => ?_) fun rules _ => ?_
      · exact (Prod.mk.inj (ran.symm.trans (Steps.run_lift _ forest))).2
      · refine .of_succeeds ((succeeds_plant none rules.root.entry rules.root.below forest).bind ?_)
        exact fun root between _ => ⟨_, between, rfl⟩

theorem succeeds_merged (linked : forest.Linked) (resolve : Resolver α)
    (tries : List (RootedTrie α)) (caseInsensitive : Choice) :
    Succeeds (merged resolve tries caseInsensitive) forest := by
  refine (succeeds_create _ _ forest).bind fun result between ran => ?_
  obtain ⟨sprouts, new, inside⟩ := of_run_create ran
  have laid : Succeeds (tries.forM (result.mergeWith resolve)) between := by
    refine .forM (fun reached => forest.Sprouts reached ∧ result.root < reached.cells.size)
      (fun trie _ reached kept => ?_) ⟨sprouts, inside⟩
    have linkedToo := kept.1.linked linked
    have further := sprouts_merge resolve kept.2 linkedToo trie.root
    exact ⟨kept.1.succeeds_merge linkedToo (Nat.le_of_eq new) kept.2 resolve trie.root,
      kept.1.trans further, further.lt_size kept.2⟩
  exact laid.bind fun _ after _ => ⟨result, after, rfl⟩

theorem allOrNothing_overlay (linked : forest.Linked) (resolve : Resolver α)
    (base : RootedTrie α) (source : Option (RuleSource α)) :
    AllOrNothing (base.overlay resolve source) forest := by
  cases source with
  | none => exact .of_succeeds ⟨base, forest, rfl⟩
  | some source =>
      refine (allOrNothing_ofSource base.caseInsensitive source forest).bind
        fun rules between ran => ?_
      have sprouts := sprouts_ofSource base.caseInsensitive source forest
      rw [ran] at sprouts
      exact succeeds_merged (sprouts.linked linked) resolve [base, rules] none

end RootedTrie

/-! ### Histories -/

namespace Operation
open Forest
variable {α β : Type} {forest : Forest α}

theorem allOrNothing_silent {steps : ForestM α β} (whole : AllOrNothing steps forest) :
    AllOrNothing (silent steps) forest :=
  have quiet : AllOrNothing (discard steps) forest := whole.bind fun _ after _ => ⟨(), after, rfl⟩
  quiet.bind fun _ after _ => ⟨none, after, rfl⟩

theorem run_of_silent {steps : ForestM α β} {failure : Failure} {after : Forest α}
    (fails : Steps.run (silent steps) forest = (.error failure, after)) :
    Steps.run steps forest = (.error failure, after) := by
  have quiet : discard steps = steps >>= fun _ => pure () := rfl
  rw [silent, quiet, bind_assoc, Steps.run_bind] at fails
  rcases ran : Steps.run steps forest with ⟨refused | value, between⟩ <;> rw [ran] at fails
  · simpa using fails
  · cases fails

theorem allOrNothing_making {steps : ForestM α (RootedTrie α)}
    (whole : AllOrNothing steps forest) : AllOrNothing (making steps) forest :=
  whole.bind fun trie after _ => ⟨some trie, after, rfl⟩

end Operation

namespace Woods
open Forest
variable {α : Type} {woods : Woods α}

/-- A merge into a node that can be changed meets no frozen node. -/
def Clear (woods : Woods α) : Operation α → Prop
  | .merge _ target source =>
      woods.forest.Changeable [target] → woods.forest.Receives target source
  | .mergeTries _ target source =>
      woods.forest.Changeable [target.root] → woods.forest.Receives target.root source.root
  | _ => True

theorem Tended.clear (tended : woods.Tended) (sheltered : woods.forest.Sheltered)
    (operation : Operation α) : woods.Clear operation := by
  cases operation with
  | merge resolve target source => exact fun loose => sheltered.receives tended.owned loose source
  | mergeTries resolve target source =>
      exact fun loose => sheltered.receives tended.owned loose source.root
  | _ => trivial

variable [Token α]

theorem Tended.allOrNothing (tended : woods.Tended) {operation : Operation α}
    (known : woods.Knows operation) (clear : woods.Clear operation)
    (single : ∀ parent rules, operation ≠ .addMany parent rules) :
    AllOrNothing operation.act woods.forest := by
  have owned := tended.owned
  have linked := owned.linked_children
  obtain ⟨nodes, tries⟩ := known
  cases operation with
  | create key entry => exact .of_succeeds ⟨none, _, rfl⟩
  | add parent key entry =>
      exact Operation.allOrNothing_silent (allOrNothing_addKeyed parent key entry _)
  | addMany parent rules => exact absurd rfl (single parent rules)
  | attach parent child => exact Operation.allOrNothing_silent (allOrNothing_attach parent child _)
  | setToken node token => exact Operation.allOrNothing_silent (allOrNothing_setToken node token _)
  | duplicate node withChildren =>
      exact Operation.allOrNothing_silent (.of_succeeds (succeeds_duplicate node withChildren _))
  | merge resolve target source =>
      exact Operation.allOrNothing_silent (allOrNothing_merge owned
        (nodes target (by simp [Operation.nodes])) resolve clear)
  | createTrie caseInsensitive placeholder => exact .of_succeeds ⟨_, _, rfl⟩
  | insert trie path token =>
      exact Operation.allOrNothing_silent (trie.allOrNothing_insert
        (tended.root_lt_size (tries trie (by simp [Operation.tries]))) linked path token)
  | freeze trie => exact Operation.allOrNothing_silent (.of_succeeds (succeeds_freeze trie.root _))
  | duplicateTrie trie =>
      exact Operation.allOrNothing_making (.of_succeeds (trie.succeeds_duplicate _))
  | mergeTries resolve target source =>
      exact Operation.allOrNothing_silent (allOrNothing_merge owned
        (tended.root_lt_size (tries target (by simp [Operation.tries]))) resolve clear)
  | ofSource caseInsensitive source =>
      exact Operation.allOrNothing_making
        (RootedTrie.allOrNothing_ofSource caseInsensitive source _)
  | merged resolve layers caseInsensitive =>
      exact Operation.allOrNothing_making (.of_succeeds
        (RootedTrie.succeeds_merged linked resolve layers caseInsensitive))
  | overlay resolve base source =>
      exact Operation.allOrNothing_making
        (RootedTrie.allOrNothing_overlay linked resolve base source)

def refusal? (woods : Woods α) (operation : Operation α) : Option Failure :=
  match Steps.run operation.act woods.forest with
  | (.error failure, _) => some failure
  | (.ok _, _) => none

theorem run_of_refusal? {operation : Operation α} {failure : Failure}
    (refused : woods.refusal? operation = some failure) :
    ∃ after, Steps.run operation.act woods.forest = (.error failure, after) := by
  rw [refusal?] at refused
  split at refused
  · next reason after ran => exact ⟨after, Option.some.inj refused ▸ ran⟩
  · cases refused

/--
What an operation leaves that was refused: the children that it had added one after another before
one of them was refused, and nothing else.
-/
def Withdrawn (woods : Woods α) (failure : Failure) : Operation α → Prop
  | .addMany parent rules => ∃ done rule rest added after, rules = done ++ rule :: rest ∧
      Steps.run (Forest.addMany parent done) woods.forest = (.ok added, after) ∧
      Steps.run (Forest.addKeyed parent rule.1 ⟨rule.2, true⟩) after = (.error failure, after) ∧
      woods.perform (.addMany parent rules) = ⟨after, woods.tries⟩
  | operation => woods.perform operation = woods

/--
Whatever happened to a forest: an operation that is refused leaves every node and every trie as it
was, and if it adds several children, it leaves those that it had added before. A merge does so if
it meets no frozen node below a target that can be changed, and it meets none unless frozen nodes
were released.
-/
theorem withdrawn_undergoAll {incidents : List (Incident α)}
    (admitted : (bare : Woods α).AdmitsAll incidents) {operation : Operation α}
    (known : (bare.undergoAll incidents).Knows operation) {failure : Failure}
    (refused : (bare.undergoAll incidents).refusal? operation = some failure) :
    ((bare.undergoAll incidents).Clear operation →
      (bare.undergoAll incidents).Withdrawn failure operation) ∧
    ((bare : Woods α).Throughout Holding incidents →
      (bare.undergoAll incidents).Clear operation) := by
  have tended := tended_bare.undergoAll admitted
  refine ⟨fun clear => ?_, fun holding => tended.clear
    (tended_bare.sheltered_undergoAll sheltered_bare admitted holding) operation⟩
  generalize bare.undergoAll incidents = woods at *
  obtain ⟨after, ran⟩ := run_of_refusal? refused
  have left : woods.perform operation = ⟨after, woods.tries⟩ := by rw [perform, ran]
  by_cases several : ∃ parent rules, operation = .addMany parent rules
  · obtain ⟨parent, rules, rfl⟩ := several
    obtain ⟨done, rule, rest, added, parts, passed, fails⟩ :=
      run_addMany_of_error (Operation.run_of_silent ran)
    exact ⟨done, rule, rest, added, after, parts, passed, fails, left⟩
  · have single : ∀ parent rules, operation ≠ .addMany parent rules := fun parent rules same =>
      several ⟨parent, rules, same⟩
    obtain rfl := tended.allOrNothing known clear single failure after ran
    cases operation with
    | addMany parent rules => exact absurd rfl (single parent rules)
    | _ => exact left

set_option maxRecDepth 2000 in
theorem withdrawn_fostered :
    let woods := bare.undergoAll fostered
    bare.AdmitsAll fostered ∧ ¬ woods.forest.Changeable [1] ∧
      woods.forest.child? 2 "い".toList = some 1 ∧
      woods.Withdrawn (.frozenNode ["か".toList, "い".toList]) (.merge Resolver.later 1 4) ∧
      woods.Withdrawn (.duplicateKey "ぬ".toList ["か".toList])
        (.addMany 2 [(some "の".toList, "no".toList), (some "ぬ".toList, "ne".toList),
          (some "な".toList, "na".toList)]) := by
  intro woods
  have admitted : bare.AdmitsAll fostered := by decide +kernel
  have frozen : ¬ woods.forest.Changeable [1] := by
    rw [changeable_single_iff]
    decide +kernel
  refine ⟨admitted, frozen, by decide +kernel, ?_, ?_⟩
  · exact (withdrawn_undergoAll admitted (by decide +kernel) rfl).1 fun loose => absurd loose frozen
  · exact (withdrawn_undergoAll admitted (by decide +kernel) rfl).1 trivial

/-- The merge is refused below its target, whose token it has replaced by then. -/
theorem torn_adopted :
    let woods := bare.undergoAll adopted
    let torn : Operation Text :=
      .mergeTries Resolver.later ⟨2, some false, []⟩ ⟨3, some false, "?".toList⟩
    bare.AdmitsAll adopted ∧ woods.Knows torn ∧ ¬ woods.forest.Within 2 3 ∧
      ¬ woods.forest.Within 3 2 ∧ woods.forest.Shallow 2 2 ∧ woods.forest.Shallow 2 3 ∧
      woods.refusal? torn = some (.frozenNode ["い".toList]) ∧
      woods.forest.entryAt? 2 [] = some ⟨[], some false⟩ ∧
      (woods.perform torn).forest.entryAt? 2 [] = some ⟨"?".toList, some false⟩ := by
  intro woods torn
  have outside : ¬ woods.forest.Within 2 3 := fun within =>
    absurd (within.mem_of_closed [1, 2] (by decide) (by decide +kernel)) (by decide)
  have above : ¬ woods.forest.Within 3 2 := fun within =>
    absurd (within.mem_of_closed [3, 4] (by decide) (by decide +kernel)) (by decide)
  exact ⟨by decide +kernel, by decide +kernel, outside, above, by decide +kernel,
    by decide +kernel, rfl, by decide +kernel, by decide +kernel⟩

end Woods
end Honji
