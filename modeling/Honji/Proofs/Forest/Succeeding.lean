import Honji.Proofs.Forest.Sprouting
import Mathlib.Data.List.Induction

/-!
When a merge goes through. Wherever both trees have a path, the node of the target must not be
frozen, and that is all: a merge meets no other obstacle, and what it has laid so far puts none in
its own way.
-/

namespace Honji
namespace Forest
variable {α β γ : Type} {before between after forest : Forest α} {node top target source : Nat}

/-! ### Nodes at the end of paths -/

def at? (forest : Forest α) (node : NodeId) (path : Path) : Option NodeId :=
  path.foldlM forest.child? node

@[simp] theorem at?_nil (forest : Forest α) (node : NodeId) : forest.at? node [] = some node := rfl

theorem at?_cons (forest : Forest α) (node : NodeId) (symbol : Symbol) (path : Path) :
    forest.at? node (symbol :: path) = (forest.child? node symbol).bind (forest.at? · path) :=
  List.foldlM_cons ..

theorem at?_snoc (forest : Forest α) (node : NodeId) (path : Path) (symbol : Symbol) :
    forest.at? node (path ++ [symbol]) = (forest.at? node path).bind (forest.child? · symbol) := by
  simp only [at?, List.foldlM_append, List.foldlM_cons, List.foldlM_nil]
  cases path.foldlM forest.child? node with
  | none => rfl
  | some found => cases led : forest.child? found symbol <;> simp [led]

theorem within_of_at? {path : Path} (reached : forest.at? top path = some node) :
    forest.Within top node := by
  induction path using List.reverseRecOn generalizing node with
  | nil =>
      obtain rfl := Option.some.inj reached
      exact .top
  | append_singleton path symbol ih =>
      rw [at?_snoc] at reached
      obtain ⟨parent, above, led⟩ := Option.bind_eq_some_iff.1 reached
      exact (ih above).step (mem_childrenOf_of_child? led)

theorem at?_kept {path : Path} (kept : ∀ parent, before.Within top parent → ∀ symbol child,
      before.child? parent symbol = some child → after.child? parent symbol = some child)
    (reached : before.at? top path = some node) : after.at? top path = some node := by
  induction path using List.reverseRecOn generalizing node with
  | nil => exact reached
  | append_singleton path symbol ih =>
      rw [at?_snoc] at reached ⊢
      obtain ⟨parent, above, led⟩ := Option.bind_eq_some_iff.1 reached
      rw [ih above]
      exact kept parent (within_of_at? above) symbol node led

theorem lt_size_of_child? {symbol : Symbol} {child : Nat}
    (led : forest.child? node symbol = some child) : node < forest.cells.size := by
  obtain ⟨cell, there, -⟩ := Option.bind_eq_some_iff.1 led
  exact lt_size_of_cell? there

namespace Sprouts
variable {path : Path}

theorem child? (sprouts : before.Sprouts after) {parent child : Nat} {symbol : Symbol}
    (led : before.child? parent symbol = some child) :
    after.child? parent symbol = some child := by
  obtain ⟨cell, there, looked⟩ := Option.bind_eq_some_iff.1 led
  obtain ⟨later, found, extended⟩ := sprouts.kept parent cell there
  obtain ⟨added, parts⟩ := extended.children
  rw [Forest.child?, found, Option.bind_some, ← parts, List.lookup_append, looked]
  rfl

theorem at? (sprouts : before.Sprouts after) (reached : before.at? top path = some node) :
    after.at? top path = some node :=
  at?_kept (fun _ _ _ _ => sprouts.child?) reached

theorem at?_of_lt (sprouts : before.Sprouts after) (reached : after.at? top path = some node)
    (old : node < before.cells.size) : before.at? top path = some node := by
  induction path using List.reverseRecOn generalizing node with
  | nil => exact reached
  | append_singleton path symbol ih =>
      rw [at?_snoc] at reached ⊢
      obtain ⟨parent, above, led⟩ := Option.bind_eq_some_iff.1 reached
      have earlier := sprouts.led parent symbol node led old
      rw [ih above (lt_size_of_child? earlier), Option.bind_some, earlier]

theorem changeable_iff (sprouts : before.Sprouts after) (old : node < before.cells.size) :
    after.Changeable [node] ↔ before.Changeable [node] := by
  obtain ⟨cell, there⟩ := exists_cell_of_lt old
  obtain ⟨later, found, extended⟩ := sprouts.kept node cell there
  simp [changeable_single_iff, there, found, extended.frozen]

theorem changeable_new (sprouts : before.Sprouts after) (new : before.cells.size ≤ node) :
    after.Changeable [node] := by
  intro member inside cell there
  obtain rfl := List.mem_singleton.1 inside
  exact (sprouts.new _ cell new there).1

end Sprouts

theorem Owned.child?_eq (owned : forest.Owned) {parent child : Nat} {found : Cell α}
    {symbol : Symbol} (stored : child ∈ forest.childrenOf parent)
    (there : forest.cell? child = some found) (key : found.key = some symbol) :
    forest.child? parent symbol = some child := by
  obtain ⟨cell, storer, member⟩ := exists_storer stored
  obtain ⟨link, linked, rfl⟩ := List.mem_map.1 member
  obtain ⟨foundToo, here, keyToo, -⟩ := owned.linked parent cell storer link linked
  obtain rfl := Option.some.inj (there.symm.trans here)
  obtain rfl := Option.some.inj (key.symm.trans keyToo)
  cases looked : cell.children.lookup link.1 with
  | none => simpa using List.lookup_eq_none_iff.1 looked link linked
  | some other =>
      obtain ⟨front, back, parts, -⟩ := List.lookup_eq_some_iff.1 looked
      have same : (link.1, other) = link := List.inj_on_of_nodup_map
        (owned.distinct parent cell storer) (by simp [parts]) linked rfl
      rw [child?, storer, Option.bind_some, looked, ← same]

theorem Owned.exists_led (owned : forest.Owned) {parent child : Nat} {symbol : Symbol}
    (led : forest.child? parent symbol = some child) :
    ∃ cell, forest.cell? child = some cell ∧ cell.key = some symbol ∧
      cell.parent = some parent := by
  obtain ⟨cell, there, looked⟩ := Option.bind_eq_some_iff.1 led
  obtain ⟨front, back, parts, -⟩ := List.lookup_eq_some_iff.1 looked
  exact owned.linked parent cell there (symbol, child) (by simp [parts])

/-! ### Trees that can be taken in -/

def Takes (forest : Forest α) (node : NodeId) (tree : Node α) : Prop :=
  ∀ path found, forest.at? node path = some found → (tree.find? path).isSome →
    forest.Changeable [found]

namespace Takes
variable {tree : Node α}

theorem changeable (takes : forest.Takes node tree) : forest.Changeable [node] :=
  takes [] node rfl rfl

theorem sprouts_iff (sprouts : before.Sprouts after) :
    after.Takes node tree ↔ before.Takes node tree := by
  constructor
  · intro takes path found reached there
    by_cases old : found < before.cells.size
    · exact (sprouts.changeable_iff old).1 (takes path found (sprouts.at? reached) there)
    · simp [changeable_single_iff, cell?_eq_none_iff.2 (Nat.not_lt.1 old)]
  · intro takes path found reached there
    by_cases old : found < before.cells.size
    · exact (sprouts.changeable_iff old).2
        (takes path found (sprouts.at?_of_lt reached old) there)
    · exact sprouts.changeable_new (Nat.not_lt.1 old)

theorem of_new (sprouts : before.Sprouts after) (new : before.cells.size ≤ node)
    (tree : Node α) : after.Takes node tree := by
  refine (sprouts_iff sprouts).2 fun path found reached _ => ?_
  cases path with
  | nil =>
      obtain rfl := Option.some.inj reached
      simp [changeable_single_iff, cell?_eq_none_iff.2 new]
  | cons symbol path =>
      rw [at?_cons] at reached
      obtain ⟨child, led, -⟩ := Option.bind_eq_some_iff.1 reached
      exact absurd (lt_size_of_child? led) (Nat.not_lt.2 new)

theorem cons_iff {symbol : Symbol} {own entry : Entry α} {below rest : Branches α}
    (distinct : (Branches.cons symbol entry below rest).Distinct) :
    forest.Takes node ⟨own, .cons symbol entry below rest, distinct⟩ ↔
      (∀ child, forest.child? node symbol = some child →
        forest.Takes child ⟨entry, below, distinct.2.1⟩) ∧
      forest.Takes node ⟨own, rest, distinct.2.2⟩ := by
  have first : Node.child? ⟨own, .cons symbol entry below rest, distinct⟩ symbol =
      some ⟨entry, below, distinct.2.1⟩ := Node.child?_eq_some_iff.2 (if_pos rfl)
  have others (key : Symbol) (other : symbol ≠ key) :
      Node.child? ⟨own, .cons symbol entry below rest, distinct⟩ key =
        Node.child? ⟨own, rest, distinct.2.2⟩ key :=
    Node.child?_eq_of_lookup (by rw [Branches.lookup, if_neg other, ← Node.lookup_below])
  constructor
  · intro takes
    refine ⟨fun child led path found reached there => ?_, fun path found reached there => ?_⟩
    · refine takes (symbol :: path) found ?_ ?_
      · rw [at?_cons, led, Option.bind_some, reached]
      · rwa [Node.find?_cons, first, Option.bind_some]
    · refine takes path found reached ?_
      cases path with
      | nil => rfl
      | cons key path =>
          rw [Node.find?_cons] at there ⊢
          have other : symbol ≠ key := by
            rintro rfl
            have absent : Node.child? ⟨own, rest, distinct.2.2⟩ symbol = none :=
              Node.child?_eq_none_iff.2 distinct.1
            simp [absent] at there
          rwa [others key other]
  · rintro ⟨met, later⟩ path found reached there
    cases path with
    | nil => exact later [] found reached rfl
    | cons key path =>
        by_cases same : symbol = key
        · subst same
          rw [at?_cons] at reached
          rw [Node.find?_cons, first, Option.bind_some] at there
          obtain ⟨child, led, onward⟩ := Option.bind_eq_some_iff.1 reached
          exact met child led path found onward there
        · rw [Node.find?_cons, others key same, ← Node.find?_cons] at there
          exact later (key :: path) found reached there

end Takes

theorem Owned.child?_of_lookup (owned : forest.Owned) {depth : Nat} {symbol : Symbol}
    {entry : Entry α} {below : Branches α}
    (looked : (forest.branches (depth + 1) node).lookup symbol = some (entry, below)) :
    ∃ child, forest.child? node symbol = some child ∧ below = forest.branches depth child := by
  cases there : forest.cell? node with
  | none => simp [branches, there, Branches.lookup] at looked
  | some cell =>
      have linked := owned.linked node cell there
      simp only [branches, there] at looked
      simp only [child?, there, Option.bind_some]
      clear there
      generalize cell.children = children at linked looked ⊢
      induction children with
      | nil => simp [Branches.lookup] at looked
      | cons head rest ih =>
          obtain ⟨⟨found, known, -⟩, others⟩ := List.forall_mem_cons.1 linked
          rw [List.foldr_cons, known] at looked
          simp only [link, Branches.lookup] at looked
          split at looked
          · next same =>
            obtain ⟨-, rfl⟩ := Prod.mk.inj (Option.some.inj looked)
            exact ⟨head.2, by rw [List.lookup_cons, same, beq_self_eq_true], rfl⟩
          · next other =>
            rw [Branches.lookup_erase_of_ne other] at looked
            obtain ⟨child, led, read⟩ := ih others looked
            exact ⟨child, by rw [List.lookup_cons, beq_false_of_ne (Ne.symm other), led], read⟩

theorem Owned.isSome_at?_of_below (owned : forest.Owned) {depth : Nat} {tree : Node α}
    (below : tree.below = forest.branches depth node) {path : Path}
    (there : (tree.find? path).isSome) : (forest.at? node path).isSome := by
  induction path generalizing node depth tree with
  | nil => rfl
  | cons symbol path ih =>
      cases led : tree.child? symbol with
      | none => simp [Node.find?_cons, led] at there
      | some child =>
          rw [Node.find?_cons, led, Option.bind_some] at there
          rw [Node.child?_eq_some_iff, below] at led
          cases depth with
          | zero => simp [branches, Branches.lookup] at led
          | succ depth =>
              obtain ⟨next, found, same⟩ := owned.child?_of_lookup led
              rw [at?_cons, found, Option.bind_some]
              exact ih same there

theorem Owned.isSome_at?_of_find? (owned : forest.Owned) {tree : Node α}
    (read : forest.tree? node = some tree) {path : Path} (there : (tree.find? path).isSome) :
    (forest.at? node path).isSome := by
  obtain ⟨cell, -, rfl⟩ := Option.map_eq_some_iff.1 read
  exact owned.isSome_at?_of_below rfl there

/-- At each path below both nodes, the first one has a node that can be changed. -/
def Receives (forest : Forest α) (target source : NodeId) : Prop :=
  ∀ path found, forest.at? target path = some found → (forest.at? source path).isSome →
    forest.Changeable [found]

theorem Receives.takes (receives : forest.Receives target source) (owned : forest.Owned)
    {tree : Node α} (read : forest.tree? source = some tree) : forest.Takes target tree :=
  fun path found reached there =>
    receives path found reached (owned.isSome_at?_of_find? read there)

theorem Receives.of_pairs (pairs : List (Nat × Nat)) (start : (target, source) ∈ pairs)
    (closed : ∀ pair ∈ pairs, ∀ link ∈ (forest.cell? pair.1).elim [] (·.children),
      ∀ other ∈ forest.child? pair.2 link.1, (link.2, other) ∈ pairs)
    (loose : ∀ pair ∈ pairs, (forest.cell? pair.1).any (·.frozen) = false) :
    forest.Receives target source := by
  intro path found reached also
  obtain ⟨other, reachedToo⟩ := Option.isSome_iff_exists.1 also
  suffices (found, other) ∈ pairs from changeable_single_iff.2 (loose _ this)
  induction path using List.reverseRecOn generalizing found other with
  | nil =>
      obtain rfl := Option.some.inj reached
      obtain rfl := Option.some.inj reachedToo
      exact start
  | append_singleton path symbol ih =>
      rw [at?_snoc] at reached reachedToo
      obtain ⟨parent, above, led⟩ := Option.bind_eq_some_iff.1 reached
      obtain ⟨storer, aboveToo, ledToo⟩ := Option.bind_eq_some_iff.1 reachedToo
      obtain ⟨cell, there, looked⟩ := Option.bind_eq_some_iff.1 led
      obtain ⟨front, back, parts, -⟩ := List.lookup_eq_some_iff.1 looked
      exact closed _ (ih parent above (by simp [aboveToo]) storer aboveToo) (symbol, found)
        (by simp [there, parts]) other ledToo

/-! ### Computations that hinge on a condition -/

/-- A computation that succeeds under a condition, and is refused at a frozen node otherwise. -/
structure Hinges (steps : ForestM α β) (forest : Forest α) (condition : Prop) : Prop where
  succeeds : condition → Steps.Succeeds steps forest
  refused : ¬ condition → ∃ path after,
    Steps.run steps forest = (.error (.frozenNode path), after)

namespace Hinges
variable {first : ForestM α β} {next : β → ForestM α γ} {condition further : Prop}

theorem of_succeeds (succeeds : Steps.Succeeds first forest) (holds : condition) :
    Hinges first forest condition :=
  ⟨fun _ => succeeds, fun fails => absurd holds fails⟩

theorem iff (hinges : Hinges first forest condition) (same : condition ↔ further) :
    Hinges first forest further :=
  propext same ▸ hinges

theorem congr {steps other : ForestM α β} (same : Steps.run steps forest = Steps.run other forest)
    (hinges : Hinges other forest condition) : Hinges steps forest condition := by
  refine ⟨fun holds => ?_, fun fails => same ▸ hinges.refused fails⟩
  obtain ⟨value, after, ran⟩ := hinges.succeeds holds
  exact ⟨value, after, same.trans ran⟩

theorem bind (here : Hinges first before condition)
    (goesOn : ∀ value between, Steps.run first before = (.ok value, between) →
      Hinges (next value) between further) :
    Hinges (first >>= next) before (condition ∧ further) := by
  refine ⟨fun ⟨holds, later⟩ => (here.succeeds holds).bind fun value between ran =>
    (goesOn value between ran).succeeds later, fun fails => ?_⟩
  by_cases holds : condition
  · obtain ⟨value, between, ran⟩ := here.succeeds holds
    rw [Steps.run_bind_of_ok ran]
    exact (goesOn value between ran).refused fun later => fails ⟨holds, later⟩
  · obtain ⟨path, after, ran⟩ := here.refused holds
    exact ⟨path, after, by rw [Steps.run_bind, ran]⟩

theorem read {next : Forest α → ForestM α γ} (goesOn : Hinges (next forest) forest condition) :
    Hinges (get >>= next) forest condition :=
  goesOn.congr (Steps.run_bind_of_ok (Steps.run_get forest))

end Hinges

theorem hinges_meet (resolve : Resolver α) (node : Nat) (other : Sight α) (forest : Forest α) :
    Hinges (meet resolve node other) forest (forest.Changeable [node]) := by
  rcases run_meet_cases resolve node other forest with ⟨frozen, fails⟩ | ⟨loose, after, ran, -⟩
  · exact ⟨fun changeable => absurd changeable frozen, fun _ => ⟨_, _, fails⟩⟩
  · exact .of_succeeds ⟨(), after, ran⟩ loose

theorem succeeds_growChild (parent : Nat) (symbol : Symbol) (entry : Entry α)
    (forest : Forest α) : Steps.Succeeds (growChild parent symbol entry) forest :=
  ⟨_, _, rfl⟩

theorem succeeds_add {parent : Nat} {symbol : Symbol} (changeable : forest.Changeable [parent])
    (free : forest.child? parent symbol = none) (entry : Entry α) :
    Steps.Succeeds (add parent symbol entry) forest := by
  obtain ⟨child, after, ran⟩ := succeeds_growChild parent symbol entry forest
  exact ⟨child, after, (run_add changeable free entry).trans ran⟩

theorem succeeds_sow (branches : Branches α) (parent : Nat) (forest : Forest α) :
    Steps.Succeeds (sow parent branches) forest := by
  induction branches generalizing parent forest with
  | nil => exact ⟨(), forest, rfl⟩
  | cons symbol entry below rest belowHyp restHyp =>
      rw [sow]
      exact (succeeds_growChild parent symbol entry forest).bind fun child grown _ =>
        (belowHyp child grown).bind fun _ sown _ => restHyp parent sown

theorem run_mergeBelow_single (resolve : Resolver α) (target : NodeId) (symbol : Symbol)
    (entry : Entry α) (below : Branches α) (forest : Forest α) :
    Steps.run (mergeBelow resolve target (.cons symbol entry below .nil)) forest =
      Steps.run (mergeBranch resolve target symbol entry below) forest := by
  rw [run_mergeBelow_cons, mergeBelow, Steps.run_bind]
  rcases Steps.run (mergeBranch resolve target symbol entry below) forest with ⟨_ | _, _⟩ <;> rfl

theorem Hinges.meet {tree : Node α} (recur : ∀ {between : Forest α}, node < between.cells.size →
      between.Linked → between.Changeable [node] →
        Hinges (mergeBelow resolve node tree.below) between (between.Takes node tree))
    (inside : node < forest.cells.size) (linked : forest.Linked) :
    Hinges (do
      Forest.meet resolve node tree.sight
      mergeBelow resolve node tree.below) forest (forest.Takes node tree) := by
  refine ((hinges_meet resolve node tree.sight forest).bind fun _ between ran => ?_).iff
    (and_iff_right_of_imp Takes.changeable)
  have sprouts := sprouts_meet resolve node tree.sight forest
  rw [ran] at sprouts
  rcases run_meet_cases resolve node tree.sight forest with ⟨-, fails⟩ | ⟨loose, -⟩
  · cases ran.symm.trans fails
  · exact (recur (sprouts.lt_size inside) (sprouts.linked linked)
      ((sprouts.changeable_iff inside).2 loose)).iff (Takes.sprouts_iff sprouts)

theorem hinges_mergeBelow (resolve : Resolver α) {branches : Branches α}
    (distinct : branches.Distinct) (inside : target < forest.cells.size) (linked : forest.Linked)
    (loose : forest.Changeable [target]) (own : Entry α) :
    Hinges (mergeBelow resolve target branches) forest
      (forest.Takes target ⟨own, branches, distinct⟩) := by
  induction branches generalizing forest target resolve own with
  | nil =>
      refine .of_succeeds ⟨(), forest, rfl⟩ fun path found reached there => ?_
      cases path with
      | nil => exact Option.some.inj reached ▸ loose
      | cons symbol path => cases there
  | cons symbol entry below rest belowHyp restHyp =>
      have branch : Hinges (mergeBranch resolve target symbol entry below) forest
          (∀ child, forest.child? target symbol = some child →
            forest.Takes child ⟨entry, below, distinct.2.1⟩) := by
        refine .read ?_
        cases led : forest.child? target symbol with
        | none =>
            exact .of_succeeds ((succeeds_add loose led entry).bind fun child grown _ =>
              succeeds_sow below child grown) (by simp)
        | some child =>
            let under : Node α := ⟨entry, below, distinct.2.1⟩
            have there := linked target child (mem_childrenOf_of_child? led)
            have onward : Hinges (do
                meet (resolve.beneath [symbol] [symbol]) child under.sight
                mergeBelow (resolve.beneath [symbol] [symbol]) child below) forest
                (forest.Takes child under) :=
              .meet (fun inside linked loose => belowHyp _ _ inside linked loose entry) there linked
            exact onward.iff (by simp [under])
      have sprouts := sprouts_mergeBelow resolve (.cons symbol entry below .nil) inside linked
      rw [run_mergeBelow_single] at sprouts
      refine .congr (run_mergeBelow_cons ..) ?_
      refine (branch.bind fun _ between ran => ?_).iff (Takes.cons_iff distinct).symm
      -- what the later siblings hinge on is not touched by the first one
      rw [ran] at sprouts
      exact (restHyp resolve distinct.2.2 (sprouts.lt_size inside) (sprouts.linked linked)
        ((sprouts.changeable_iff inside).2 loose) own).iff (Takes.sprouts_iff sprouts)

theorem hinges_merge (resolve : Resolver α) (inside : target < forest.cells.size)
    (linked : forest.Linked) {tree : Node α} (read : forest.tree? source = some tree) :
    Hinges (merge resolve target source) forest (forest.Takes target tree) := by
  refine .read ?_
  rw [read]
  exact .meet (fun inside linked loose =>
    hinges_mergeBelow _ tree.distinct inside linked loose tree.entry) inside linked

end Forest
end Honji
