import Honji.Proofs.Forest.Confining
import Honji.Proofs.Forest.Grafting
import Honji.Proofs.Forest.Publishing
import Honji.Proofs.Forest.Termination

/-!
Deep copies. A copy of a node with all that is below it succeeds, frozen or not; it is equal, lies
in new nodes that can be changed, and belongs to no other node. From then on the two trees know
nothing of each other: whatever is done to the nodes of one, each answer about the other stays.
-/

namespace Honji

def Cell.content {α : Type} (cell : Cell α) : Option Symbol × Entry α × List Symbol :=
  (cell.key, cell.entry, cell.keys)

namespace Forest
variable {α : Type} {before after forest : Forest α} {node top parent : Nat}
  {layout others : Layout α}

/-! ### Parents -/

def Parented (forest : Forest α) : Prop :=
  ∀ node parent : Nat, forest.Up parent node → parent < forest.cells.size

theorem Evolves.size_le (evolves : before.Evolves after) :
    before.cells.size ≤ after.cells.size := by
  by_contra fewer
  obtain ⟨cell, there⟩ := exists_cell_of_lt (Nat.not_le.1 fewer)
  obtain ⟨later, found, -⟩ := evolves.keys _ cell there
  exact Nat.lt_irrefl _ (lt_size_of_cell? found)

theorem Sprouts.parented (sprouts : before.Sprouts after) (parented : before.Parented) :
    after.Parented := by
  intro node parent up
  by_cases inside : node < before.cells.size
  · exact sprouts.lt_size (parented node parent (sprouts.up_of_lt inside up))
  · obtain ⟨cell, there, -⟩ := Option.bind_eq_some_iff.1 up
    exact (sprouts.placed (Nat.not_lt.1 inside) up).1.trans (lt_size_of_cell? there)

/-! ### Copies -/

def contentAt? (forest : Forest α) (node : NodeId) (path : Path) :
    Option (Option Symbol × Entry α × List Symbol) :=
  ((forest.at? node path).bind forest.cell?).map Cell.content

/--
A node heads a copy of what another one heads: equal at every path, finite, of new nodes that can be
changed, and without a parent. Everything that was there is as it was.
-/
structure Copied (original copy : Nat) (before after : Forest α) : Prop where
  tree : after.tree? copy = before.tree? original
  contents : ∀ path, after.contentAt? copy path = before.contentAt? original path
  finite : ∃ layout, after.Stands copy layout
  loose : ∃ cell, after.cell? copy = some cell ∧ cell.parent = none
  fresh : before.Fresh after copy
  kept : ∀ node < before.cells.size, after.cell? node = before.cell? node

structure Unmoved (top : Nat) (before after : Forest α) : Prop where
  tree : ∀ node, after.Within top node ↔ before.Within top node
  cells : ∀ node, before.Within top node → after.cell? node = before.cell? node
  paths : ∀ node, before.Within top node → after.path node = before.path node
  reads : ∀ trie : RootedTrie α, before.Within top trie.root → trie.read after = trie.read before
  finds : ∀ (trie : RootedTrie α) (path : Path), before.Within top trie.root →
    trie.find? after path = trie.find? before path

theorem Owned.key_of_at? (owned : forest.Owned) {path : Path} {symbol : Symbol}
    (reached : forest.at? top (path ++ [symbol]) = some node) {cell : Cell α}
    (there : forest.cell? node = some cell) : cell.key = some symbol := by
  rw [at?_snoc] at reached
  obtain ⟨parent, -, led⟩ := Option.bind_eq_some_iff.1 reached
  obtain ⟨found, known, key, -⟩ := owned.exists_led led
  obtain rfl := Option.some.inj (there.symm.trans known)
  exact key

theorem Stands.exists_content (stands : forest.Stands node layout) {tree : Node α}
    (read : forest.tree? node = some tree) :
    ∃ cell, forest.cell? node = some cell ∧ cell.content = (cell.key, tree.entry, tree.keys) := by
  obtain ⟨cell, there, children⟩ := stands.top
  obtain rfl := Option.some.inj (read.symm.trans (stands.tree?_eq there))
  exact ⟨cell, there, by simp [Cell.content, Cell.keys, children, Node.keys]⟩

theorem Stands.contentAt?_eq (stands : before.Stands top layout) (owned : before.Owned)
    {other : Nat} (standsToo : after.Stands other others) (ownedToo : after.Owned) {tree : Node α}
    (read : before.tree? top = some tree) (readToo : after.tree? other = some tree)
    (key : (after.cell? other).map (·.key) = (before.cell? top).map (·.key)) (path : Path) :
    after.contentAt? other path = before.contentAt? top path := by
  have led := stands.at?_rel read path
  have ledToo := standsToo.at?_rel readToo path
  rw [contentAt?, contentAt?]
  rcases reached : before.at? top path with _ | found <;>
    rcases reachedToo : after.at? other path with _ | foundToo <;>
    rw [reached] at led <;> rw [reachedToo] at ledToo <;>
    generalize tree.find? path = under at led ledToo
  · rfl
  · cases led
    cases ledToo
  · cases ledToo
    cases led
  · obtain ⟨here, below, standing⟩ := led
    obtain ⟨hereToo, belowToo, standingToo⟩ := ledToo
    obtain ⟨cell, there, content⟩ := standing.exists_content here
    obtain ⟨cellToo, thereToo, contentToo⟩ := standingToo.exists_content hereToo
    have same : cellToo.key = cell.key := by
      rcases List.eq_nil_or_concat path with rfl | ⟨front, symbol, rfl⟩
      · obtain rfl := Option.some.inj reached
        obtain rfl := Option.some.inj reachedToo
        simpa [there, thereToo] using key
      · rw [List.concat_eq_append] at reached reachedToo
        rw [owned.key_of_at? reached there, ownedToo.key_of_at? reachedToo thereToo]
    simp only [Option.bind_some, there, thereToo, Option.map_some, content, contentToo, same]

theorem Owned.run_copy (owned : before.Owned) (stands : before.Stands node layout) :
    ∃ after, Steps.run (duplicate node true) before = (.ok before.cells.size, after) ∧
      before.Copied node before.cells.size after := by
  obtain ⟨cell, there, -⟩ := stands.top
  have read := stands.tree?_eq there
  obtain ⟨after, ran, gained⟩ :=
    run_plant cell.key ⟨cell.entry, layout.branches, stands.distinct⟩ before
  have copied : Steps.run (duplicate node true) before = (.ok before.cells.size, after) := by
    rw [duplicate, Steps.run_bind_of_ok (Steps.run_get before), there, read]
    exact ran
  have evolves := evolves_duplicate owned node true
  rw [copied] at evolves
  obtain ⟨links, top⟩ := exists_root_of_plant ran
  obtain ⟨others, standsToo, -⟩ := gained.stands
  refine ⟨after, copied, gained.read.trans read.symm, ?_, ⟨others, standsToo⟩, ⟨_, top, rfl⟩,
    gained.fresh, ?_⟩
  · refine stands.contentAt?_eq owned standsToo evolves.owned read gained.read ?_
    simp [there, top, Cell.loose]
  · exact fun other inside => gained.grows.same other inside (by simp)

theorem Copied.stands {original copy : Nat} (copied : before.Copied original copy after)
    (stands : before.Stands original layout) : after.Stands original layout :=
  stands.congr fun member inside => copied.kept member (stands.lt_size member inside)

/-! ### Independence -/

theorem enclosed_within (forest : Forest α) (top : Nat) :
    Enclosed (fun node => forest.Within top node ∨ forest.cells.size ≤ node) forest := by
  refine ⟨fun parent child inside stored => ?_, fun node => .inr⟩
  rcases inside with within | beyond
  · exact .inl (within.step stored)
  · obtain ⟨cell, there, -⟩ := exists_storer stored
    exact absurd (lt_size_of_cell? there) (Nat.not_lt.2 beyond)

theorem Confined.unmoved {region : NodeId → Prop} (confined : Confined region before after)
    (owned : before.Owned) (stands : before.Stands top layout) (part : NodeId → Prop)
    (covered : ∀ node, before.Within top node → part node)
    (upward : ∀ node parent, part node → before.Up parent node → part parent)
    (apart : ∀ node, part node → ¬ region node) : before.Unmoved top after := by
  have same (node : Nat) (inside : part node) : after.cell? node = before.cell? node :=
    confined.same node (apart node inside)
  have cells (node : Nat) (within : before.Within top node) :
      after.cell? node = before.cell? node := same node (covered node within)
  refine ⟨fun node => Within.congr cells, cells, fun node within => ?_, fun trie within => ?_,
    fun trie path within => ?_⟩
  · exact path_congr upward (fun other inside => by rw [same other inside]) (covered node within)
  · obtain ⟨cell, there⟩ := stands.exists_cell (stands.within_iff.1 within)
    obtain ⟨below, standing⟩ :=
      owned.exists_stands_of_shallow there (stands.shallow.within within)
    exact RootedTrie.read_congr standing fun member inside =>
      cells member (within.trans (standing.within_iff.2 inside))
  · refine RootedTrie.find?_congr (fun node below => funext fun symbol => ?_) path
    rw [child?, child?, cells node (within.trans below)]

end Forest

/-! ### Histories -/

namespace Woods
variable {α : Type}

theorem parented_bare : (bare : Woods α).forest.Parented := fun _ _ up => by
  simp [Forest.Up, Forest.parent?, bare, Forest.empty, Forest.cell?] at up

variable [Token α] {woods : Woods α}

/--
Whatever happens later to the nodes of one tree, and to nodes that are still to come, nothing that
can be asked about another tree is answered differently.
-/
def Secluded (woods : Woods α) (changed kept : Nat) : Prop :=
  ∀ later : List (Incident α),
    (∀ incident ∈ later, ∀ node ∈ incident.changes,
      woods.forest.Within changed node ∨ woods.forest.cells.size ≤ node) →
    woods.forest.Unmoved kept (woods.undergoAll later).forest

structure Duplicated (original copy : Nat) (before after : Woods α) : Prop where
  copied : before.forest.Copied original copy after.forest
  unmoved : after.Secluded copy original
  unmovedToo : after.Secluded original copy

theorem Tended.size_undergo (tended : woods.Tended) {incident : Incident α}
    (admitted : woods.Admits incident) :
    woods.forest.cells.size ≤ (woods.undergo incident).forest.cells.size := by
  cases incident with
  | operation operation =>
      rw [Woods.undergo, forest_perform]
      exact (tended.act admitted).1.size_le
  | release node => exact (Forest.evolves_release tended.owned node).size_le

theorem Tended.parented_undergo (tended : woods.Tended) (parented : woods.forest.Parented)
    {incident : Incident α} (admitted : woods.Admits incident) :
    (woods.undergo incident).forest.Parented := by
  have grown := tended.size_undergo admitted
  -- where each parent is one that there was before, there are enough nodes all the same
  have kept (ups : ∀ node parent, (woods.undergo incident).forest.Up parent node →
      woods.forest.Up parent node) : (woods.undergo incident).forest.Parented :=
    fun node parent up => Nat.lt_of_lt_of_le (parented node parent (ups node parent up)) grown
  cases incident with
  | release node => exact kept fun _ _ up => (Forest.up_of_release up).1
  | operation operation =>
      cases operation with
      | attach parent child =>
          rcases woods.perform_attach_cases parent child with same | attached
          · exact kept fun _ _ up => by rwa [Woods.undergo, same] at up
          · intro node upper up
            rcases attached.up_cases up with ⟨-, rfl⟩ | ⟨-, up⟩
            · exact Nat.lt_of_lt_of_le (admitted.1 upper (by simp [Operation.nodes])) grown
            · exact Nat.lt_of_lt_of_le (parented node upper up) grown
      | freeze trie =>
          have ups := Forest.up_freeze (woods.perform_freeze_cells trie)
          exact kept fun _ _ up => ups ▸ up
      | _ => exact (tended.sprouts admitted rfl).parented parented

theorem Tended.parented_undergoAll (tended : woods.Tended) (parented : woods.forest.Parented)
    {incidents : List (Incident α)} (admitted : woods.AdmitsAll incidents) :
    (woods.undergoAll incidents).forest.Parented := by
  induction incidents generalizing woods with
  | nil => exact parented
  | cons incident rest ih =>
      exact ih (tended.undergo admitted.1) (tended.parented_undergo parented admitted.1) admitted.2

section
variable {before after : Woods α} {original copy : Nat} {layout : Layout α}
  (copied : before.forest.Copied original copy after.forest) (owned : after.forest.Owned)
  (stands : before.forest.Stands original layout)
include copied owned stands

theorem secluded_original (parented : before.forest.Parented) : after.Secluded copy original := by
  intro later inside
  have standsAfter := copied.stands stands
  obtain ⟨cell, there, -⟩ := copied.loose
  have new := (copied.fresh copy .top).1
  have grown : before.forest.cells.size < after.forest.cells.size :=
    Nat.lt_of_le_of_lt new (Forest.lt_size_of_cell? there)
  have confined := confined_undergoAll (Forest.enclosed_within after.forest copy) inside
  refine confined.unmoved owned standsAfter (fun node => node < before.forest.cells.size)
    (fun node within => ?_) (fun node parent old up => ?_) fun node old changed => ?_
  · exact stands.lt_size node (standsAfter.within_iff.1 within)
  · rw [Forest.Up, Forest.parent?, copied.kept node old] at up
    exact parented node parent up
  · rcases changed with within | beyond
    · exact Nat.not_le.2 old (copied.fresh node within).1
    · exact Nat.not_le.2 old (Nat.le_trans (Nat.le_of_lt grown) beyond)

theorem secluded_copy : after.Secluded original copy := by
  intro later inside
  obtain ⟨others, standsCopy⟩ := copied.finite
  have confined := confined_undergoAll (Forest.enclosed_within after.forest original) inside
  refine confined.unmoved owned standsCopy (after.forest.Within copy) (fun _ within => within)
    (fun node parent within up => ?_) fun node within changed => ?_
  · obtain ⟨cell, there, known⟩ := Option.bind_eq_some_iff.1 up
    rcases List.mem_cons.1 (standsCopy.within_iff.1 within) with rfl | below
    · obtain ⟨top, found, loose⟩ := copied.loose
      obtain rfl := Option.some.inj (there.symm.trans found)
      cases loose.symm.trans known
    · obtain ⟨storer, passed, upToo⟩ := standsCopy.holds.parent_mem node below cell there
      obtain rfl := Option.some.inj (known.symm.trans upToo)
      exact standsCopy.within_iff.2 passed
  · rcases changed with around | beyond
    · have old := stands.lt_size node ((copied.stands stands).within_iff.1 around)
      exact Nat.not_le.2 old (copied.fresh node within).1
    · exact Nat.not_le.2 (standsCopy.lt_size node (standsCopy.within_iff.1 within)) beyond

theorem duplicated (parented : before.forest.Parented) : Duplicated original copy before after :=
  ⟨copied, secluded_original copied owned stands parented, secluded_copy copied owned stands⟩

end

/--
Every node that heads a finite tree and every trie can be copied, whether it is frozen or not. The
copy of a trie looks symbols up as the trie does and has its placeholder.
-/
structure Copies (woods : Woods α) : Prop where
  nodes : ∀ node depth : Nat, node < woods.forest.cells.size → woods.forest.Shallow depth node →
    ∃ copy, Steps.run (Forest.duplicate node true) woods.forest =
        (.ok copy, (woods.perform (.duplicate node true)).forest) ∧
      Duplicated node copy woods (woods.perform (.duplicate node true))
  tries : ∀ trie ∈ woods.tries, ∃ copy : RootedTrie α, Steps.run trie.duplicate woods.forest =
        (.ok copy, (woods.perform (.duplicateTrie trie)).forest) ∧
      copy.caseInsensitive = trie.caseInsensitive ∧ copy.placeholder = trie.placeholder ∧
      copy.read (woods.perform (.duplicateTrie trie)).forest =
        { trie.read woods.forest with frozen := false } ∧
      Duplicated trie.root copy.root woods (woods.perform (.duplicateTrie trie))

theorem Tended.copies (tended : woods.Tended) (parented : woods.forest.Parented) :
    woods.Copies := by
  have owned := tended.owned
  constructor
  case nodes =>
    intro node depth inside shallow
    obtain ⟨cell, there⟩ := Forest.exists_cell_of_lt inside
    obtain ⟨layout, stands⟩ := owned.exists_stands_of_shallow there shallow
    obtain ⟨after, ran, copied⟩ := owned.run_copy stands
    have known : woods.Knows (.duplicate node true) :=
      ⟨by simpa [Operation.nodes], by simp [Operation.tries]⟩
    have ownedAfter := (tended.perform known).owned
    have left : (woods.perform (.duplicate node true)).forest = after := by
      rw [forest_perform, Operation.act, Operation.forest_silent, ran]
    rw [← left] at ran copied
    exact ⟨_, ran, duplicated copied ownedAfter stands parented⟩
  case tries =>
    intro trie made
    obtain ⟨layout, stands⟩ := tended.exists_stands made
    obtain ⟨after, copiedRan, copied⟩ := owned.run_copy stands
    let copy : RootedTrie α := { trie with root := woods.forest.cells.size }
    have ran : Steps.run trie.duplicate woods.forest = (.ok copy, after) :=
      Steps.run_bind_of_ok copiedRan
    have known : woods.Knows (.duplicateTrie trie) :=
      ⟨by simp [Operation.nodes], by simpa [Operation.tries]⟩
    have ownedAfter := (tended.perform known).owned
    have left : (woods.perform (.duplicateTrie trie)).forest = after := by
      rw [forest_perform, Operation.act, Operation.forest_making, ran]
    rw [← left] at ran copied
    refine ⟨copy, ran, rfl, rfl, ?_, duplicated copied ownedAfter stands parented⟩
    obtain ⟨-, cell, top, changeable⟩ := copied.fresh copy.root .top
    have root : (woods.perform (.duplicateTrie trie)).forest.tree? copy.root =
        some (trie.read woods.forest).root := copied.tree.trans (RootedTrie.tree?_root stands)
    rw [RootedTrie.read_eq root, RootedTrie.frozen, top]
    simp [copy, changeable]

/-- Whatever happened to a forest, deep copies in it are equal to the originals and independent. -/
theorem copies_undergoAll {incidents : List (Incident α)}
    (admitted : (bare : Woods α).AdmitsAll incidents) : (bare.undergoAll incidents).Copies :=
  (tended_bare.undergoAll admitted).copies
    (tended_bare.parented_undergoAll parented_bare admitted)

def muzzled : List (Incident Text) :=
  [.operation (.createTrie (some false) []),
    .operation (.insert ⟨0, some false, []⟩ (Path.ofText "い".toList) "i".toList),
    .operation (.insert ⟨0, some false, []⟩ (Path.ofText "いぬ".toList) "inu".toList),
    .operation (.freeze ⟨0, some false, []⟩)]

theorem copies_muzzled :
    bare.AdmitsAll muzzled ∧ (bare.undergoAll muzzled).forest.Shallow 2 1 ∧
      (∃ copy, Duplicated 1 copy (bare.undergoAll muzzled)
          ((bare.undergoAll muzzled).perform (.duplicate 1 true)) ∧
        ((bare.undergoAll muzzled).perform (.duplicate 1 true)).forest.Unmoved 1
          (((bare.undergoAll muzzled).perform (.duplicate 1 true)).undergoAll
            [.operation (.setToken copy "e".toList),
              .operation (.merge Resolver.later copy 1)]).forest) ∧
      ∃ copy : RootedTrie Text, Duplicated 0 copy.root (bare.undergoAll muzzled)
        ((bare.undergoAll muzzled).perform (.duplicateTrie ⟨0, some false, []⟩)) := by
  have admitted : bare.AdmitsAll muzzled := by decide +kernel
  have shallow : (bare.undergoAll muzzled).forest.Shallow 2 1 := by decide +kernel
  have inside : 1 < (bare.undergoAll muzzled).forest.cells.size := by decide +kernel
  have made : ⟨0, some false, []⟩ ∈ (bare.undergoAll muzzled).tries := by decide +kernel
  have copies := copies_undergoAll admitted
  obtain ⟨copy, -, duplicated⟩ := copies.nodes 1 2 inside shallow
  obtain ⟨copyOfTrie, -, -, -, -, duplicatedToo⟩ := copies.tries _ made
  refine ⟨admitted, shallow, ⟨copy, duplicated, duplicated.unmoved _ ?_⟩, copyOfTrie, duplicatedToo⟩
  simp [Incident.changes, Operation.changes, Forest.Within.top]

end Woods
end Honji
