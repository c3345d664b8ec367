import Honji.Proofs.Forest.Succeeding
import Honji.Proofs.Forest.Upkeep
import Honji.Proofs.Trie.MergeAlgebra

/-!
What a merge of two nodes comes to. If neither is below the other and the first can take the second
in, the merge succeeds. Its target then has the paths of both; nodes that it had stay where they
are, and the others are new. Nothing outside the target's tree is touched, least of all the tree of
the source.
-/

namespace Honji
namespace Forest
variable {α : Type} {before after forest : Forest α} {node target source top : Nat}
  {layout others : Layout α} {resolve : Resolver α}

/-! ### What stands at a path -/

def entryAt? (forest : Forest α) (node : NodeId) (path : Path) : Option (Entry α) :=
  ((forest.at? node path).bind forest.cell?).map (·.entry)

def keysAt (forest : Forest α) (node : NodeId) (path : Path) : List Symbol :=
  ((forest.at? node path).bind forest.cell?).elim [] (·.keys)

/--
What there is to be seen of the node at a path. In a given forest its own path tells which node it
is, so that a resolver may go by whatever else is known of the node.
-/
def sightAt? (forest : Forest α) (node : NodeId) (path : Path) : Option (Sight α) :=
  (forest.at? node path).bind fun found => (forest.cell? found).map fun cell =>
    ⟨cell.entry, forest.path node ++ path, forest.branches forest.cells.size found⟩

/-- A path leads where it leads in the tree that is read. -/
theorem Stands.at?_rel (stands : forest.Stands node layout) {tree : Node α}
    (read : forest.tree? node = some tree) (path : Path) :
    Option.Rel (fun found under => forest.tree? found = some under ∧
      ∃ below, forest.Stands found below) (forest.at? node path) (tree.find? path) := by
  induction path generalizing node layout tree with
  | nil => exact .some ⟨read, layout, stands⟩
  | cons symbol path ih =>
      rw [at?_cons, Node.find?_cons]
      have led := stands.child?_rel read symbol
      generalize forest.child? node symbol = child, tree.child? symbol = under at led
      cases led with
      | none => exact .none
      | some reached =>
          obtain ⟨readToo, below, standsToo⟩ := reached
          exact ih standsToo readToo

theorem Stands.isSome_at? (stands : forest.Stands node layout) {tree : Node α}
    (read : forest.tree? node = some tree) (path : Path) :
    (forest.at? node path).isSome = (tree.find? path).isSome := by
  have led := stands.at?_rel read path
  generalize forest.at? node path = found, tree.find? path = under at led
  cases led <;> rfl

theorem Stands.entryAt?_eq (stands : forest.Stands node layout) {tree : Node α}
    (read : forest.tree? node = some tree) (path : Path) :
    forest.entryAt? node path = tree.entryAt? path := by
  have led := stands.at?_rel read path
  rw [entryAt?, Node.entryAt?]
  generalize forest.at? node path = found, tree.find? path = under at led
  cases led with
  | none => rfl
  | @some found under reached =>
      obtain ⟨readToo, below, standsToo⟩ := reached
      obtain ⟨cell, there, -⟩ := standsToo.top
      obtain rfl := Option.some.inj (readToo.symm.trans (standsToo.tree?_eq there))
      rw [Option.bind_some, there]
      rfl

theorem Stands.keysAt_eq (stands : forest.Stands node layout) {tree : Node α}
    (read : forest.tree? node = some tree) (path : Path) :
    forest.keysAt node path = tree.keysAt path := by
  have led := stands.at?_rel read path
  rw [keysAt, Node.keysAt]
  generalize forest.at? node path = found, tree.find? path = under at led
  cases led with
  | none => rfl
  | @some found under reached =>
      obtain ⟨readToo, below, standsToo⟩ := reached
      obtain ⟨cell, there, children⟩ := standsToo.top
      obtain rfl := Option.some.inj (readToo.symm.trans (standsToo.tree?_eq there))
      rw [Option.bind_some, there]
      simp [Cell.keys, children, Node.keys]

theorem Stands.sightAt?_eq (stands : forest.Stands node layout) {tree : Node α}
    (read : forest.tree? node = some tree) (path : Path) : forest.sightAt? node path =
      (tree.find? path).map (·.sight.behind (forest.path node ++ path)) := by
  have led := stands.at?_rel read path
  rw [sightAt?]
  generalize forest.at? node path = found, tree.find? path = under at led
  cases led with
  | none => rfl
  | @some found under reached =>
      obtain ⟨readToo, below, standsToo⟩ := reached
      obtain ⟨cell, there, -⟩ := standsToo.top
      obtain rfl := Option.some.inj (readToo.symm.trans (standsToo.tree?_eq there))
      simp [there, standsToo.branches_eq, Node.sight, Sight.behind]

/-! ### Nodes that can be changed -/

theorem Sheltered.changeable (sheltered : forest.Sheltered) (owned : forest.Owned)
    (loose : forest.Changeable [top]) (within : forest.Within top node) :
    forest.Changeable [node] := by
  induction within with
  | top => exact loose
  | @child parent child cell above there stored ih =>
      intro member inside found known
      obtain rfl := List.mem_singleton.1 inside
      refine Bool.eq_false_iff.2 fun frozen => ?_
      obtain ⟨link, linked, rfl⟩ := List.mem_map.1 stored
      obtain ⟨foundToo, here, key, up⟩ := owned.linked parent cell there link linked
      obtain rfl := Option.some.inj (known.symm.trans here)
      obtain ⟨storer, upper, upToo, storing, marked⟩ :=
        sheltered _ found known frozen (by simp [key])
      obtain rfl := Option.some.inj (up.symm.trans upToo)
      cases (ih parent List.mem_cons_self upper storing).symm.trans marked

theorem Sheltered.receives (sheltered : forest.Sheltered) (owned : forest.Owned)
    (loose : forest.Changeable [target]) (source : Nat) : forest.Receives target source :=
  fun _ _ reached _ => sheltered.changeable owned loose (within_of_at? reached)

/-- A node takes in another one if it receives it, and is refused at a frozen node otherwise. -/
theorem Stands.hinges_merge (stands : forest.Stands source layout) (owned : forest.Owned)
    (inside : target < forest.cells.size) (resolve : Resolver α) :
    Hinges (merge resolve target source) forest (forest.Receives target source) := by
  obtain ⟨cell, there, -⟩ := stands.top
  have read := stands.tree?_eq there
  refine (Forest.hinges_merge resolve inside owned.linked_children read).iff ?_
  simp only [Takes, Receives, stands.isSome_at? read]

/-! ### The merge -/

/-- What is there after one node was merged into another, in terms of what was there before. -/
structure Grafted (resolve : Resolver α) (target source : Nat) (before after : Forest α) :
    Prop where
  paths : ∀ path, (after.at? target path).isSome =
    ((before.at? target path).isSome || (before.at? source path).isSome)
  entries : ∀ path, after.entryAt? target path =
    match before.sightAt? target path, before.sightAt? source path with
    | some own, some other => some ⟨resolve own other, own.terminal.either other.terminal⟩
    | some own, none => some own.toEntry
    | none, other => other.map (·.toEntry)
  keys : ∀ path, after.keysAt target path = before.keysAt target path ++
    (before.keysAt source path).filter (· ∉ before.keysAt target path)
  kept : ∀ path node cell, before.at? target path = some node → before.cell? node = some cell →
    after.at? target path = some node ∧
      ∃ later, after.cell? node = some later ∧ cell.Extends later
  fresh : ∀ path node, before.at? target path = none → after.at? target path = some node →
    before.cells.size ≤ node ∧ ∃ cell, after.cell? node = some cell ∧ cell.frozen = false
  owned : after.Owned
  finite : ∃ below, after.Stands target below
  source : ∀ node, before.Within source node → after.cell? node = before.cell? node
  beside : ∀ node : Nat, node < before.cells.size → ¬ before.Within target node →
    after.cell? node = before.cell? node

theorem Stands.grafted (stands : before.Stands target layout) (standsToo : before.Stands source others)
    (owned : before.Owned) (outside : ¬ before.Within target source)
    (above : ¬ before.Within source target)
    (ran : Steps.run (merge resolve target source) before = (.ok (), after)) :
    Grafted resolve target source before after := by
  obtain ⟨cell, there, -⟩ := stands.top
  obtain ⟨otherCell, otherThere, -⟩ := standsToo.top
  have inside := lt_size_of_cell? there
  have read := stands.tree?_eq there
  have readToo := standsToo.tree?_eq otherThere
  obtain ⟨laid, standsAfter, readAfter, grows, covered⟩ := stands.exists_merged read readToo ran
  have sprouts := sprouts_merge resolve inside owned.linked_children source
  have evolves := evolves_merge owned resolve there source
  rw [ran] at sprouts evolves
  have beside (node : Nat) (old : node < before.cells.size) (off : ¬ before.Within target node) :
      after.cell? node = before.cell? node :=
    grows.same node old fun member => off (stands.within_iff.2 member)
  refine ⟨?_, ?_, ?_, ?_, ?_, evolves.owned, ⟨laid, standsAfter⟩, ?_, beside⟩
  · intro path
    rw [standsAfter.isSome_at? readAfter, stands.isSome_at? read, standsToo.isSome_at? readToo,
      Node.find?_merge]
    cases Node.find? _ path <;> cases Node.find? _ path <;> rfl
  · intro path
    rw [standsAfter.entryAt?_eq readAfter, stands.sightAt?_eq read, standsToo.sightAt?_eq readToo,
      Node.entryAt?, Node.find?_merge, Resolver.beneath_beneath]
    cases Node.find? _ path <;> cases Node.find? _ path <;> rfl
  · intro path
    rw [standsAfter.keysAt_eq readAfter, stands.keysAt_eq read, standsToo.keysAt_eq readToo,
      Node.keysAt_merge]
  · exact fun path node cell reached known => ⟨sprouts.at? reached, sprouts.kept node cell known⟩
  · intro path node unreached reached
    -- were it an old node, it would have been at the end of this very path
    have new : before.cells.size ≤ node := Nat.not_lt.1 fun old => by
      cases unreached.symm.trans (sprouts.at?_of_lt reached old)
    obtain ⟨found, known⟩ := standsAfter.exists_cell
      (standsAfter.within_iff.1 (within_of_at? reached))
    exact ⟨new, found, known, (sprouts.new node found new known).1⟩
  · intro node within
    refine beside node (standsToo.lt_size node (standsToo.within_iff.1 within)) fun both => ?_
    exact (both.comparable owned within).elim outside above

end Forest

namespace Woods
variable {α : Type} [Token α]

/--
Whatever happened to a forest: a node takes in another one, if neither is below the other and no way
down from either goes on for ever, as long as none of the nodes that it has where the other has one
is frozen. If one is, the merge is refused. No such node is below one that can be changed unless
frozen nodes were released.
-/
theorem grafted_undergoAll {incidents : List (Incident α)}
    (admitted : (bare : Woods α).AdmitsAll incidents) {target source depth otherDepth : Nat}
    (there : target < (bare.undergoAll incidents).forest.cells.size)
    (thereToo : source < (bare.undergoAll incidents).forest.cells.size)
    (outside : ¬ (bare.undergoAll incidents).forest.Within target source)
    (above : ¬ (bare.undergoAll incidents).forest.Within source target)
    (shallow : (bare.undergoAll incidents).forest.Shallow depth target)
    (shallowToo : (bare.undergoAll incidents).forest.Shallow otherDepth source)
    (resolve : Resolver α) :
    let forest := (bare.undergoAll incidents).forest
    (forest.Receives target source →
      ∃ after, Steps.run (Forest.merge resolve target source) forest = (.ok (), after) ∧
        Forest.Grafted resolve target source forest after) ∧
    (¬ forest.Receives target source →
      ∃ path after, Steps.run (Forest.merge resolve target source) forest =
        (.error (.frozenNode path), after)) ∧
    ((bare : Woods α).Throughout Holding incidents → forest.Changeable [target] →
      forest.Receives target source) := by
  intro forest
  have tended := tended_bare.undergoAll admitted
  obtain ⟨cell, known⟩ := Forest.exists_cell_of_lt there
  obtain ⟨otherCell, otherKnown⟩ := Forest.exists_cell_of_lt thereToo
  obtain ⟨layout, stands⟩ := tended.owned.exists_stands_of_shallow known shallow
  obtain ⟨others, standsToo⟩ := tended.owned.exists_stands_of_shallow otherKnown shallowToo
  have hinges := standsToo.hinges_merge tended.owned there resolve
  refine ⟨fun receives => ?_, hinges.refused, fun holding loose => ?_⟩
  · obtain ⟨_, after, ran⟩ := hinges.succeeds receives
    exact ⟨after, ran, stands.grafted standsToo tended.owned outside above ran⟩
  · exact (tended_bare.sheltered_undergoAll sheltered_bare admitted holding).receives tended.owned
      loose source

/-- A trie with い is frozen and released, and い is attached to か, beside ぬ; き has ぬ and ね. -/
def fostered : List (Incident Text) :=
  [.operation (.createTrie (some false) []),
    .operation (.insert ⟨0, some false, []⟩ (Path.ofText "い".toList) "i".toList),
    .operation (.freeze ⟨0, some false, []⟩),
    .release 0,
    .operation (.create (some "か".toList) ⟨"ka".toList, some true⟩),
    .operation (.attach 2 1),
    .operation (.add 2 (some "ぬ".toList) ⟨"nu".toList, some true⟩),
    .operation (.create (some "き".toList) ⟨"ki".toList, some true⟩),
    .operation (.add 4 (some "ぬ".toList) ⟨"ne".toList, some true⟩),
    .operation (.add 4 (some "ね".toList) ⟨"ne".toList, some true⟩)]

theorem grafted_fostered :
    let told : Resolver Text := fun own other => own.path.flatten ++ other.token
    let forest := (bare.undergoAll fostered).forest
    bare.AdmitsAll fostered ∧ ¬ forest.Changeable [1] ∧ forest.child? 2 "い".toList = some 1 ∧
      ∃ after, Steps.run (Forest.merge told 2 4) forest = (.ok (), after) ∧
        Forest.Grafted told 2 4 forest after ∧
        after.entryAt? 2 ["ぬ".toList] = some ⟨"かぬne".toList, some true⟩ := by
  intro told forest
  have admitted : bare.AdmitsAll fostered := by decide +kernel
  have outside : ¬ forest.Within 2 4 := fun within =>
    absurd (within.mem_of_closed [1, 2, 3] (by decide) (by decide +kernel)) (by decide)
  have above : ¬ forest.Within 4 2 := fun within =>
    absurd (within.mem_of_closed [4, 5, 6] (by decide) (by decide +kernel)) (by decide)
  have receives : forest.Receives 2 4 :=
    .of_pairs [(2, 4), (3, 5)] (by decide) (by decide +kernel) (by decide +kernel)
  obtain ⟨merges, -, -⟩ := grafted_undergoAll admitted (by decide +kernel) (by decide +kernel)
    outside above (by decide +kernel : forest.Shallow 2 2) (by decide +kernel : forest.Shallow 2 4)
    told
  obtain ⟨after, ran, grafted⟩ := merges receives
  have frozen : ¬ forest.Changeable [1] := by
    rw [Forest.changeable_single_iff]
    decide +kernel
  refine ⟨admitted, frozen, by decide +kernel, after, ran, grafted, ?_⟩
  rw [grafted.entries]
  decide +kernel

/-- A trie with い is frozen and released, and い is attached to a new trie; another one has い. -/
def adopted : List (Incident Text) :=
  [.operation (.createTrie (some false) []),
    .operation (.insert ⟨0, some false, []⟩ (Path.ofText "い".toList) "i".toList),
    .operation (.freeze ⟨0, some false, []⟩),
    .release 0,
    .operation (.createTrie (some false) []),
    .operation (.attach 2 1),
    .operation (.createTrie (some false) "?".toList),
    .operation (.insert ⟨3, some false, "?".toList⟩ (Path.ofText "い".toList) "e".toList)]

/-- Neither node is below the other and the target is not frozen, but the merge is refused. -/
theorem refused_adopted :
    let forest := (bare.undergoAll adopted).forest
    bare.AdmitsAll adopted ∧ forest.Changeable [2] ∧ ¬ forest.Within 2 3 ∧ ¬ forest.Within 3 2 ∧
      forest.Shallow 2 2 ∧ forest.Shallow 2 3 ∧
      (Steps.run (Forest.merge Resolver.later 2 3) forest).1 =
        .error (.frozenNode ["い".toList]) := by
  intro forest
  have loose : forest.Changeable [2] := Forest.changeable_single_iff.2 (by decide +kernel)
  have outside : ¬ forest.Within 2 3 := fun within =>
    absurd (within.mem_of_closed [1, 2] (by decide) (by decide +kernel)) (by decide)
  have above : ¬ forest.Within 3 2 := fun within =>
    absurd (within.mem_of_closed [3, 4] (by decide) (by decide +kernel)) (by decide)
  exact ⟨by decide +kernel, loose, outside, above, by decide +kernel, by decide +kernel, rfl⟩

end Woods
end Honji
