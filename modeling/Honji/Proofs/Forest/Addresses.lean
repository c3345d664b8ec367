import Honji.Proofs.Forest.Atomicity

/-!
Paths as addresses. The path of a node is collected on its way up, and a lookup goes down. In a trie
the two agree: the path of a node leads to that node and to no other, an insertion answers the node
at the end of the path that it was given, and each node keeps its path as long as the root is held.
-/

namespace Honji

namespace Forest
variable {α β γ : Type} {before after forest : Forest α} {node top upper child : Nat} {path : Path}
  {symbol : Symbol}

/-! ### Ways down and ways up -/

theorem Owned.exists_at? (owned : forest.Owned) (within : forest.Within top node) :
    ∃ path, forest.at? top path = some node := by
  induction within with
  | top => exact ⟨[], rfl⟩
  | @child parent child cell _ there stored ih =>
      obtain ⟨path, above⟩ := ih
      obtain ⟨link, member, rfl⟩ := List.mem_map.1 stored
      obtain ⟨found, here, key, -⟩ := owned.linked parent cell there link member
      have led := owned.child?_eq ((mem_childrenOf there).2 stored) here key
      exact ⟨path ++ [link.1], by rw [at?_snoc, above, Option.bind_some, led]⟩

theorem Owned.path_of_at? (owned : forest.Owned) {root : Cell α}
    (there : forest.cell? top = some root) (unnamed : root.key = none)
    (reached : forest.at? top path = some node) : forest.path node = path := by
  suffices ∃ steps, forest.climb? steps node [] = some path by
    obtain ⟨steps, ends⟩ := this
    exact path_eq ends
  -- the way up begins with the last symbol of the way down, and takes one step for each symbol
  induction path using List.reverseRecOn generalizing node with
  | nil =>
      obtain rfl := Option.some.inj reached
      exact ⟨1, by simp [climb?, there, unnamed]⟩
  | append_singleton path symbol ih =>
      rw [at?_snoc] at reached
      obtain ⟨parent, above, led⟩ := Option.bind_eq_some_iff.1 reached
      obtain ⟨steps, ends⟩ := ih above
      obtain ⟨cell, here, key, up⟩ := owned.exists_led led
      exact ⟨steps + 1, by
        rw [climb?_of_parent here key up, climb?_append, ends, Option.map_some]⟩

/-! ### Children that stay -/

theorem Attached.child? {parent added : Nat} (attached : before.Attached parent added after)
    (led : before.child? upper symbol = some child) : after.child? upper symbol = some child := by
  obtain ⟨key, cells⟩ := attached.cells
  obtain ⟨cell, there, looked⟩ := Option.bind_eq_some_iff.1 led
  simp [Forest.child?, cells, there, List.lookup_append, looked]

theorem child?_freeze {marked : List Nat}
    (cells : ∀ node : Nat, after.cell? node =
      if node ∈ marked then (before.cell? node).map Cell.freeze else before.cell? node) :
    after.child? upper symbol = before.child? upper symbol := by
  rw [child?, child?, cells]
  split
  · cases before.cell? upper <;> rfl
  · rfl

theorem child?_release (other : upper ≠ node) :
    (forest.release node).child? upper symbol = forest.child? upper symbol := by
  rw [child?, child?, cell?_release]
  cases forest.cell? upper with
  | none => rfl
  | some cell => simp [other]

/-! ### Ways that are blocked -/

structure Blocks (forest : Forest α) (top : Nat) (path : Path) (stop : Nat) : Prop where
  passed : ∃ front, front <+: path ∧ forest.at? top front = some stop
  frozen : ∃ cell, forest.cell? stop = some cell ∧ cell.frozen = true

def Stops (forest : Forest α) (top : Nat) (path : Path) (steps : ForestM α β) : Prop :=
  ∃ stop, forest.Blocks top path stop ∧
    Steps.run steps forest = (.error (.frozenNode (forest.path stop)), forest)

namespace Stops

theorem bind {first : ForestM α β} (stops : forest.Stops top path first)
    (next : β → ForestM α γ) : forest.Stops top path (first >>= next) := by
  obtain ⟨stop, blocks, ran⟩ := stops
  exact ⟨stop, blocks, by rw [Steps.run_bind, ran]⟩

theorem of_run {first : ForestM α β} {next : β → ForestM α γ} {value : β}
    (ran : Steps.run first forest = (.ok value, forest))
    (stops : forest.Stops top path (next value)) : forest.Stops top path (first >>= next) := by
  obtain ⟨stop, blocks, fails⟩ := stops
  exact ⟨stop, blocks, (Steps.run_bind_of_ok ran).trans fails⟩

theorem descend {steps : ForestM α β} (led : forest.child? top symbol = some child)
    (stops : forest.Stops child path steps) : forest.Stops top (symbol :: path) steps := by
  obtain ⟨stop, ⟨⟨front, leading, reached⟩, frozen⟩, ran⟩ := stops
  refine ⟨stop, ⟨⟨symbol :: front, (List.prefix_cons_inj symbol).2 leading, ?_⟩, frozen⟩, ran⟩
  rw [at?_cons, led, Option.bind_some, reached]

theorem checkMutable {cell : Cell α} (reached : forest.at? top path = some node)
    (there : forest.cell? node = some cell) (frozen : cell.frozen = true) (rest : Path) :
    forest.Stops top (path ++ rest) (Forest.checkMutable node) :=
  ⟨node, ⟨⟨path, List.prefix_append path rest, reached⟩, cell, there, frozen⟩,
    run_checkMutable_of_frozen there frozen⟩

end Stops
end Forest

/-! ### Insertions -/

namespace RootedTrie
open Forest
variable {α : Type} {before after forest : Forest α} {trie : RootedTrie α} {node last : NodeId}
  {path : Path}

theorem find?_eq_at? (trie : RootedTrie α) (forest : Forest α) (path : Path) :
    trie.find? forest path = forest.at? trie.root (path.map trie.normalize) := by
  rw [find?, at?, List.foldlM_map]
  rfl

theorem at?_of_run_walk (inside : node < forest.cells.size) (linked : forest.Linked)
    (ran : Steps.run (path.foldlM trie.childOrNew node) forest = (.ok last, after)) :
    after.at? node (path.map trie.normalize) = some last := by
  induction path generalizing forest node with
  | nil =>
      obtain ⟨same, rfl⟩ := Prod.mk.inj ran
      exact congrArg some (Except.ok.inj same)
  | cons symbol path ih =>
      rw [List.foldlM_cons] at ran
      obtain ⟨child, between, stepped, ranOn⟩ := Steps.run_bind_eq_ok.1 ran
      have led := child?_of_run_childOrNew inside stepped
      have first := trie.sprouts_childOrNew inside symbol
      rw [stepped] at first
      have linkedToo := first.linked linked
      have insideToo := linkedToo node child (mem_childrenOf_of_child? led)
      have rest := trie.sprouts_walk path insideToo linkedToo
      rw [ranOn] at rest
      rw [List.map_cons, at?_cons, rest.child? led, Option.bind_some]
      exact ih insideToo linkedToo ranOn

theorem stops_of_run_walk {failure : Failure} (inside : node < forest.cells.size)
    (linked : forest.Linked)
    (fails : Steps.run (path.foldlM trie.childOrNew node) forest = (.error failure, after)) :
    forest.Stops node (path.map trie.normalize) (path.foldlM trie.childOrNew node) := by
  induction path generalizing node with
  | nil => cases fails
  | cons symbol path ih =>
      rw [List.foldlM_cons] at fails ⊢
      rw [childOrNew, bind_assoc] at fails ⊢
      rw [Steps.run_bind_of_ok (Steps.run_get forest)] at fails
      refine .of_run (Steps.run_get forest) ?_
      cases led : trie.child? forest node symbol with
      | some child =>
          rw [led] at fails
          exact .descend led (ih (linked node child (mem_childrenOf_of_child? led)) fails)
      | none =>
          obtain ⟨cell, there⟩ := exists_cell_of_lt inside
          rw [led] at fails
          cases marked : cell.frozen with
          | true =>
              simp only [add, bind_assoc]
              exact (Stops.checkMutable (at?_nil forest node) there marked _).bind _
          | false =>
              -- the child would be added, and from a new node on nothing is refused
              have loose : forest.Changeable [node] :=
                changeable_single_iff.2 (by rw [there]; exact marked)
              obtain ⟨grown, ran, -, child, -⟩ :=
                run_growChild there (trie.normalize symbol) ⟨trie.placeholder, some false⟩
              obtain ⟨last, final, ranOn, -⟩ := trie.run_walk_of_fresh path child rfl
                (changeable_single_iff.2 (by rw [child]; rfl))
              rw [Steps.run_bind_of_ok ((run_add loose led _).trans ran), ranOn] at fails
              cases fails

/--
An insertion answers the node to which its path leads afterwards, unless a node on the way is
frozen; then it is refused there.
-/
theorem run_insert_cases (inside : trie.root < forest.cells.size) (linked : forest.Linked)
    (filled : path ≠ []) (token : α) :
    (∃ node after, Steps.run (trie.insert path token) forest = (.ok node, after) ∧
        after.at? trie.root (path.map trie.normalize) = some node) ∨
      forest.Stops trie.root (path.map trie.normalize) (trie.insert path token) := by
  have nonempty : path.isEmpty = false := Bool.eq_false_iff.2 (mt List.isEmpty_iff.1 filled)
  rw [insert, nonempty]
  rcases ran : Steps.run (path.foldlM trie.childOrNew trie.root) forest with
    ⟨failure | last, between⟩
  · exact .inr ((stops_of_run_walk inside linked ran).bind _)
  have reached := at?_of_run_walk inside linked ran
  by_cases marked : ∃ cell, between.cell? last = some cell ∧ cell.frozen = true
  · obtain ⟨cell, there, frozen⟩ := marked
    -- a node that was added could be changed, so the last one was there before
    obtain rfl : between = forest := by
      rcases trie.run_walk_cases path inside linked with ⟨outcome, same⟩ | ⟨_, _, same, loose⟩
      · exact (Prod.mk.inj (ran.symm.trans same)).2
      · obtain ⟨found, rfl⟩ := Prod.mk.inj (ran.symm.trans same)
        obtain rfl := Except.ok.inj found
        cases (loose last List.mem_cons_self cell there).symm.trans frozen
    have stops := Stops.checkMutable reached there frozen []
    rw [List.append_nil] at stops
    exact .inr (.of_run ran ((stops.bind _).bind _))
  · have loose : between.Changeable [last] := fun member only cell there =>
      Bool.eq_false_iff.2 fun frozen =>
        marked ⟨cell, List.mem_singleton.1 only ▸ there, frozen⟩
    obtain ⟨_, written, wrote⟩ := succeeds_setToken loose token
    have sprouts := sprouts_setToken last token between
    rw [wrote] at sprouts
    have ended : written.Sprouts
        (Steps.run (update last ({ · with terminal := some true })) written).2 :=
      sprouts_update last written fun _ => ⟨rfl, rfl, rfl, rfl⟩
    refine .inl ⟨last, _, ?_, (sprouts.trans ended).at? reached⟩
    exact (Steps.run_bind_of_ok ran).trans (Steps.run_bind_of_ok wrote)

/-! ### Addresses -/

/--
A node of a trie has a path for itself, and is found at it if and only if the trie looks up each
symbol of the path in the form in which it is stored.
-/
structure Addresses (trie : RootedTrie α) (forest : Forest α) (node : NodeId) (path : Path) :
    Prop where
  within : forest.Within trie.root node
  own : forest.path node = path
  alone : ∀ other : Nat, forest.Within trie.root other → forest.path other = path → other = node
  found : trie.find? forest path = some node ↔ ∀ symbol ∈ path, trie.normalize symbol = symbol

theorem IsRooted.path_of_at? (rooted : trie.IsRooted forest) (owned : forest.Owned)
    (reached : forest.at? trie.root path = some node) : forest.path node = path := by
  obtain ⟨root, there, unnamed⟩ := rooted
  exact owned.path_of_at? there unnamed reached

theorem IsRooted.at?_path (rooted : trie.IsRooted forest) (owned : forest.Owned)
    (within : forest.Within trie.root node) :
    forest.at? trie.root (forest.path node) = some node := by
  obtain ⟨path, reached⟩ := owned.exists_at? within
  rwa [rooted.path_of_at? owned reached]

theorem IsRooted.addresses (rooted : trie.IsRooted forest) (owned : forest.Owned)
    (reached : forest.at? trie.root path = some node) : trie.Addresses forest node path where
  within := within_of_at? reached
  own := rooted.path_of_at? owned reached
  alone := fun other within same => by
    have ownPath := rooted.at?_path owned within
    rw [same, reached] at ownPath
    exact (Option.some.inj ownPath).symm
  found := by
    rw [find?_eq_at?]
    constructor
    · intro found
      -- the path of the node is the path in the form in which it was looked up
      have normal := (rooted.path_of_at? owned found).symm.trans (rooted.path_of_at? owned reached)
      exact List.map_inj_left.1 (normal.trans (List.map_id path).symm)
    · intro normal
      rw [List.map_congr_left (g := id) normal, List.map_id, reached]

end RootedTrie

/-! ### Histories -/

namespace Woods
open Forest
variable {α : Type} [Token α] {woods : Woods α} {trie : RootedTrie α} {node : NodeId} {path : Path}

def Settles (woods : Woods α) (trie : RootedTrie α) (node : NodeId) (path : Path) : Prop :=
  ∀ later : List (Incident α), woods.AdmitsAll later → .release trie.root ∉ later →
    trie.Addresses (woods.undergoAll later).forest node path

/-- The nodes of a trie have their paths for good, and so has each node that is inserted. -/
structure Addressed (woods : Woods α) (trie : RootedTrie α) : Prop where
  nodes : ∀ node : Nat, woods.forest.Within trie.root node →
    woods.Settles trie node (woods.forest.path node)
  inserted : ∀ path token, path ≠ [] →
    (∃ node after, Steps.run (trie.insert path token) woods.forest = (.ok node, after) ∧
        trie.find? after path = some node ∧
        (woods.perform (.insert trie path token)).Settles trie node (path.map trie.normalize)) ∨
      woods.forest.Stops trie.root (path.map trie.normalize) (trie.insert path token)

namespace Tended
variable (tended : woods.Tended)
include tended

theorem at?_undergo {incident : Incident α} (admitted : woods.Admits incident)
    (held : .release trie.root ≠ incident) (reached : woods.forest.at? trie.root path = some node) :
    (woods.undergo incident).forest.at? trie.root path = some node := by
  cases incident with
  | release released =>
      refine at?_kept (fun upper within symbol child led => ?_) reached
      have other : upper ≠ released := by
        rintro rfl
        rcases within.eq_or_stored with rfl | ⟨storer, -, stored⟩
        · exact held rfl
        · obtain ⟨cell, there, member⟩ := exists_storer stored
          exact admitted.notMem there member
      exact (child?_release other).trans led
  | operation operation =>
      cases operation with
      | attach parent child =>
          rcases woods.perform_attach_cases parent child with same | attached
          · rw [Woods.undergo, same]
            exact reached
          · exact at?_kept (fun _ _ _ _ => attached.child?) reached
      | freeze frozen =>
          refine at?_kept (fun upper _ symbol child led => ?_) reached
          exact (child?_freeze (woods.perform_freeze_cells frozen)).trans led
      | _ => exact (tended.sprouts admitted rfl).at? reached

theorem at?_undergoAll {incidents : List (Incident α)} (admitted : woods.AdmitsAll incidents)
    (held : .release trie.root ∉ incidents)
    (reached : woods.forest.at? trie.root path = some node) :
    (woods.undergoAll incidents).forest.at? trie.root path = some node := by
  induction incidents generalizing woods with
  | nil => exact reached
  | cons incident rest ih =>
      obtain ⟨here, later⟩ := not_or.1 (mt List.mem_cons.2 held)
      exact ih (tended.undergo admitted.1) admitted.2 later
        (tended.at?_undergo admitted.1 here reached)

theorem settles (made : trie ∈ woods.tries)
    (reached : woods.forest.at? trie.root path = some node) :
    woods.Settles trie node path := by
  intro later admitted held
  have tendedLater := tended.undergoAll admitted
  exact (tendedLater.rooted trie (woods.subset_undergoAll later made)).addresses tendedLater.owned
    (tended.at?_undergoAll admitted held reached)

theorem addressed (made : trie ∈ woods.tries) : woods.Addressed trie where
  nodes := fun node within =>
    tended.settles made ((tended.rooted trie made).at?_path tended.owned within)
  inserted := fun path token filled => by
    have known : woods.Knows (.insert trie path token) :=
      ⟨by simp [Operation.nodes], by simpa [Operation.tries]⟩
    refine (RootedTrie.run_insert_cases (tended.root_lt_size made) tended.owned.linked_children
      filled token).imp_left ?_
    rintro ⟨node, after, ran, reached⟩
    have performed : (woods.perform (.insert trie path token)).forest = after := by
      rw [forest_perform, Operation.act, Operation.forest_silent, ran]
    have madeToo := woods.subset_undergo (.operation (.insert trie path token)) made
    refine ⟨node, after, ran, (RootedTrie.find?_eq_at? ..).trans reached, ?_⟩
    exact (tended.perform known).settles madeToo (performed ▸ reached)

end Tended

/--
Whatever happened to a forest: the nodes of a trie have paths that lead to them, each its own, and
an insertion that is not refused answers the node whose path was inserted. As long as the root is
held, these nodes keep their paths.
-/
theorem addressed_undergoAll {incidents : List (Incident α)}
    (admitted : (bare : Woods α).AdmitsAll incidents)
    (made : trie ∈ (bare.undergoAll incidents).tries) :
    (bare.undergoAll incidents).Addressed trie :=
  (tended_bare.undergoAll admitted).addressed made

def signposts : List (Incident Text) :=
  [.operation (.createTrie (some true) []),
    .operation (.insert ⟨0, some true, []⟩ (Path.ofText "Ka".toList) "か".toList),
    .operation (.add 1 (some "I".toList) ⟨"キ".toList, some true⟩),
    .operation (.create (some "n".toList) ⟨"ん".toList, some true⟩),
    .operation (.attach 0 4)]

def detours : List (Incident Text) :=
  [.operation (.insert ⟨0, some true, []⟩ (Path.ofText "kAn".toList) "かん".toList),
    .operation (.duplicateTrie ⟨0, some true, []⟩),
    .operation (.insert ⟨6, some true, []⟩ (Path.ofText "nya".toList) "にゃ".toList),
    .operation (.mergeTries Resolver.later ⟨0, some true, []⟩ ⟨6, some true, []⟩),
    .operation (.attach 4 2), .release 6,
    .operation (.freeze ⟨0, some true, []⟩),
    .operation (.insert ⟨0, some true, []⟩ (Path.ofText "Ku".toList) "く".toList)]

theorem addressed_signposts :
    let start := bare.undergoAll signposts
    let trie : RootedTrie Text := ⟨0, some true, []⟩
    bare.AdmitsAll signposts ∧ trie ∈ start.tries ∧ start.Addressed trie ∧
      start.forest.path 3 = ["k".toList, "I".toList] ∧
      trie.find? start.forest ["k".toList, "I".toList] = none ∧
      start.AdmitsAll detours ∧ .release trie.root ∉ detours ∧
      trie.Addresses (start.undergoAll detours).forest 2 (Path.ofText "ka".toList) := by
  intro start trie
  have admitted : bare.AdmitsAll signposts := by decide +kernel
  have made : trie ∈ start.tries := by decide +kernel
  have continued : start.AdmitsAll detours := by decide +kernel
  have held : Incident.release trie.root ∉ detours := by simp [detours, trie]
  have addressed := addressed_undergoAll admitted made
  have reached : start.forest.at? 0 (Path.ofText "ka".toList) = some 2 := by decide +kernel
  have path : start.forest.path 2 = Path.ofText "ka".toList := by decide +kernel
  exact ⟨admitted, made, addressed, by decide +kernel, by decide +kernel, continued, held,
    path ▸ addressed.nodes 2 (within_of_at? reached) detours continued held⟩

end Woods
end Honji
