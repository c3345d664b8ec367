import Honji.Proofs.Forest.Merging
import Honji.Proofs.Forest.Reading
import Honji.Proofs.Trie.Overlay

/-!
Stored tries laid over one another. The result is a tree of new nodes, it reads as the tries do when
they are laid over one another, and all that was in the forest before stays as it was.
-/

namespace Honji
namespace Forest
variable {α : Type} {start before : Forest α} {node : Nat} {tree : Node α}

structure Gained (start after : Forest α) (node : Nat) (tree : Node α) : Prop where
  grows : Grows [] start after
  stands : ∃ layout, after.Stands node layout ∧
    ∀ member ∈ node :: layout.nodes, start.cells.size ≤ member
  read : after.tree? node = some tree

theorem Gained.since {middle after : Forest α} (grows : Grows [] start middle)
    (gained : Gained middle after node tree) : Gained start after node tree where
  grows := grows.trans gained.grows (by simp)
  stands := by
    obtain ⟨layout, stands, new⟩ := gained.stands
    exact ⟨layout, stands, fun member inside => Nat.le_trans grows.size (new member inside)⟩
  read := gained.read

theorem run_grow_loose (key : Option Symbol) (entry : Entry α) (forest : Forest α) :
    ∃ after, Steps.run (grow (.loose key entry)) forest = (.ok forest.cells.size, after) ∧
      after.cells.size = forest.cells.size + 1 ∧
      after.cell? forest.cells.size = some (.loose key entry) ∧ Grows [] forest after :=
  ⟨_, run_grow _ _, by simp, by simp [cell?_push], Grows.push forest rfl⟩

theorem run_plant (key : Option Symbol) (tree : Node α) (forest : Forest α) :
    ∃ after, Steps.run (plant key tree.entry tree.below) forest =
      (.ok forest.cells.size, after) ∧ Gained forest after forest.cells.size tree := by
  obtain ⟨between, ran, size, there, grows⟩ := run_grow_loose key tree.entry forest
  obtain ⟨after, layout, sowed, same, sown⟩ := run_sow tree.below there
  have new : ∀ member ∈ layout.nodes, forest.cells.size < member := fun member inside => by
    have beyond := sown.fresh member inside
    omega
  have stands : after.Stands forest.cells.size layout :=
    ⟨⟨_, sown.top, rfl⟩, sown.holds,
      List.nodup_cons.2 ⟨fun member => Nat.lt_irrefl _ (new _ member), sown.apart⟩,
      same ▸ tree.distinct⟩
  refine ⟨after, ?_, ?_, ⟨layout, stands, ?_⟩, ?_⟩
  · rw [plant, Steps.run_bind_of_ok ran, Steps.run_bind_of_ok sowed]
    rfl
  · exact grows.trans sown.grows fun member inside =>
      .inr (Nat.le_of_eq (List.mem_singleton.1 inside).symm)
  · exact List.forall_mem_cons.2 ⟨Nat.le_refl _, fun member inside =>
      Nat.le_of_lt (new member inside)⟩
  · rw [stands.tree?_eq sown.top]
    simp [same, Cell.loose, Cell.entry]

theorem Gained.run_merge (gained : Gained start before node tree) (resolve : Resolver α)
    {source : NodeId} {other : Node α} (there : before.tree? source = some other) :
    ∃ after, Steps.run (merge resolve node source) before = (.ok (), after) ∧
      Gained start after node
        (tree.merge (resolve.beneath (before.path node) (before.path source)) other) := by
  obtain ⟨layout, stands, new⟩ := gained.stands
  have changeable : before.Changeable (node :: layout.nodes) := fun member inside found known =>
    gained.grows.changeable member found (new member inside) known
  obtain ⟨_, after, ran⟩ := stands.succeeds_merge changeable resolve source
  obtain ⟨later, standsLater, read, grows, covered⟩ := stands.exists_merged gained.read there ran
  refine ⟨after, ran, gained.grows.trans grows fun member inside => .inr (new member inside),
    ⟨later, standsLater, fun member inside => ?_⟩, read⟩
  rcases covered member inside with old | beyond
  · exact new member old
  · exact Nat.le_trans gained.grows.size beyond

end Forest

namespace RootedTrie
variable {α : Type} {start forest : Forest α} {trie : RootedTrie α}

theorem run_mergeAll (resolve : Resolver α) (tries : List (RootedTrie α))
    (stand : ∀ trie ∈ tries, ∃ layout, start.Stands trie.root layout) {result : RootedTrie α}
    {tree : Node α} (gained : Forest.Gained start forest result.root tree) :
    ∃ after laid, Steps.run (tries.forM (result.mergeWith resolve)) forest = (.ok (), after) ∧
      Forest.Gained start after result.root laid ∧ (resolve.Plain →
        laid = tries.foldl (fun root trie => root.merge resolve (trie.read start).root) tree) := by
  induction tries generalizing forest tree with
  | nil => exact ⟨forest, tree, rfl, gained, fun _ => rfl⟩
  | cons trie rest ih =>
      obtain ⟨⟨layout, stands⟩, later⟩ := List.forall_mem_cons.1 stand
      -- what the first trie reads as is what it read as at the start, since its cells are kept
      have there : forest.tree? trie.root = some (trie.read start).root := by
        rw [tree?_root (stands.grow gained.grows), read_grow stands gained.grows]
      obtain ⟨between, ran, merged⟩ := gained.run_merge resolve there
      obtain ⟨after, laid, restRan, gainedToo, folded⟩ := ih later merged
      refine ⟨after, laid, (Steps.run_bind_of_ok ran).trans restRan, gainedToo, fun plain => ?_⟩
      rw [folded plain, plain.beneath, List.foldl_cons]

theorem frozen_of_gained {root : Node α} (gained : Forest.Gained start forest trie.root root) :
    trie.frozen forest = false := by
  obtain ⟨layout, stands, new⟩ := gained.stands
  obtain ⟨cell, there, -⟩ := stands.top
  have changeable := gained.grows.changeable _ cell (new _ List.mem_cons_self) there
  rw [frozen, there, Option.any_some, changeable]

section
variable [Token α]

theorem run_merged (resolve : Resolver α) (tries : List (RootedTrie α))
    (stand : ∀ trie ∈ tries, ∃ layout, forest.Stands trie.root layout) (caseInsensitive : Choice) :
    ∃ laid after, Steps.run (merged resolve tries caseInsensitive) forest = (.ok laid, after) ∧
      laid.caseInsensitive =
        caseInsensitive.or ((tries.head?.map (·.caseInsensitive)).getD (some false)) ∧
      Forest.Gained forest after laid.root (laid.read after).root ∧
      (resolve.Plain →
        laid.read after = Trie.merged resolve (tries.map (·.read forest)) caseInsensitive) := by
  let placeholder := (tries.head?.map (·.placeholder)).getD Token.blank
  let inherited := (tries.head?.map (·.caseInsensitive)).getD (some false)
  let result : RootedTrie α := ⟨forest.cells.size, caseInsensitive.or inherited, placeholder⟩
  obtain ⟨between, ran, planted⟩ :
      ∃ between, Steps.run (create (caseInsensitive.or inherited) placeholder) forest =
          (.ok result, between) ∧
        Forest.Gained forest between result.root (.leaf ⟨placeholder, some false⟩) := by
    -- a new root is a planted leaf
    obtain ⟨between, ran, planted⟩ :=
      Forest.run_plant none (.leaf ⟨placeholder, some false⟩) forest
    obtain ⟨-, rfl⟩ := Prod.mk.inj ran
    exact ⟨_, rfl, planted⟩
  obtain ⟨after, laid, mergedRan, gained, folded⟩ := run_mergeAll resolve tries stand planted
  have read := read_eq gained.read
  rw [frozen_of_gained gained] at read
  refine ⟨result, after, ?_, rfl, ?_, fun plain => ?_⟩
  · rw [merged, Steps.run_bind_of_ok ran, Steps.run_bind_of_ok mergedRan]
    rfl
  · rwa [read]
  · rw [read, folded plain]
    cases tries with
    | nil => cases caseInsensitive <;> rfl
    | cons first rest =>
        have fields : (first.read forest).caseInsensitive = first.caseInsensitive.taken ∧
            (first.read forest).placeholder = first.placeholder := by simp
        -- the list is taken apart only after the fold was written over the stored tries
        simp only [Trie.merged, List.foldl_map]
        simp only [List.map_cons, fields]
        cases caseInsensitive <;> rfl

theorem run_ofSource (source : RuleSource α)
    (stand : ∀ trie, source = .grown trie → ∃ layout, forest.Stands trie.root layout)
    (caseInsensitive : Choice) :
    match (source.mapping forest).toTrie caseInsensitive.taken with
    | .error failure =>
        Steps.run (ofSource caseInsensitive source) forest = (.error failure, forest)
    | .ok given => ∃ rules between layout,
        Steps.run (ofSource caseInsensitive source) forest = (.ok rules, between) ∧
          Forest.Grows [] forest between ∧ between.Stands rules.root layout ∧
            (rules.read between).root = given.root := by
  cases source with
  | grown trie =>
      obtain ⟨layout, stands⟩ := stand trie rfl
      exact ⟨trie, forest, layout, rfl, .refl _ _, stands, rfl⟩
  | written mapping =>
      rw [RuleSource.mapping, ofSource, Steps.run_bind, Steps.run_lift]
      cases mapping.toTrie caseInsensitive.taken with
      | error failure => rfl
      | ok given =>
          obtain ⟨between, ran, gained⟩ := Forest.run_plant none given.root forest
          obtain ⟨layout, stands, -⟩ := gained.stands
          let rules : RootedTrie α := ⟨forest.cells.size, caseInsensitive, given.placeholder⟩
          have there : between.tree? rules.root = some given.root := gained.read
          exact ⟨rules, between, layout, Steps.run_bind_of_ok ran, gained.grows, stands, by
            rw [read_eq there]⟩

/-- Laying rules over a stored trie comes to laying them over what the trie reads as. -/
theorem run_overlay (resolve : Resolver α) (base : RootedTrie α) {layout : Layout α}
    (stands : forest.Stands base.root layout) (source : RuleSource α)
    (stand : ∀ trie, source = .grown trie → ∃ layout, forest.Stands trie.root layout) :
    match (base.read forest).overlay resolve (some (source.mapping forest)) with
    | .error failure =>
        Steps.run (base.overlay resolve (some source)) forest = (.error failure, forest)
    | .ok given => ∃ laid after,
        Steps.run (base.overlay resolve (some source)) forest = (.ok laid, after) ∧
          (resolve.Plain → laid.read after = given) ∧
            laid.caseInsensitive = base.caseInsensitive ∧
            Forest.Gained forest after laid.root (laid.read after).root := by
  have own := run_ofSource source stand base.caseInsensitive
  rw [Trie.overlay_some, caseInsensitive_read]
  cases given : (source.mapping forest).toTrie base.caseInsensitive.taken with
  | error failure =>
      rw [given] at own
      simp only [Except.map]
      rw [overlay, Steps.run_bind, own]
  | ok layer =>
      rw [given] at own
      obtain ⟨rules, between, ruleLayout, ran, grows, ruleStands, root⟩ := own
      have stand : ∀ trie ∈ [base, rules], ∃ layout, between.Stands trie.root layout := by
        rintro trie member
        rcases List.mem_pair.1 member with rfl | rfl
        · exact ⟨layout, stands.grow grows⟩
        · exact ⟨ruleLayout, ruleStands⟩
      obtain ⟨laid, after, mergedRan, inherited, gained, read⟩ :=
        run_merged resolve [base, rules] stand none
      refine ⟨laid, after, ?_, fun plain => ?_, inherited, gained.since grows⟩
      · rw [overlay, Steps.run_bind_of_ok ran, mergedRan]
      · rw [read plain]
        simp [Trie.laid, Trie.merged, read_grow stands grows, root]

/--
A caller's rules laid over a stored trie make a trie that has, at each path, what the rules give or
else what the base has there. It can be changed and lies in nodes of its own, and no node that was
there before is written.
-/
theorem overlay_rules (base : RootedTrie α) {layout : Layout α}
    (stands : forest.Stands base.root layout) {mapping : Mapping α} {rules : List (Path × α)}
    (listed : mapping.rules? = some rules) (filled : ∀ rule ∈ rules, rule.1 ≠ []) :
    ∃ laid after own,
      Steps.run (base.overlay Resolver.ruled (some (.written mapping))) forest =
          (.ok laid, after) ∧
        (base.read forest).Overlays rules (laid.read after) ∧
        laid.caseInsensitive = base.caseInsensitive ∧
        after.Stands laid.root own ∧ after.Changeable (laid.root :: own.nodes) ∧
        List.Disjoint (base.root :: layout.nodes) (laid.root :: own.nodes) ∧
        (∀ node < forest.cells.size, after.cell? node = forest.cell? node) ∧
        base.read after = base.read forest := by
  obtain ⟨given, pure, overlays⟩ := (base.read forest).overlays_overlay listed filled
  have stored := run_overlay Resolver.ruled base stands (.written mapping) (by simp)
  rw [RuleSource.mapping, pure] at stored
  obtain ⟨laid, after, ran, read, same, gained⟩ := stored
  obtain rfl := read Resolver.plain_ruled
  obtain ⟨own, ownStands, new⟩ := gained.stands
  refine ⟨laid, after, own, ran, overlays, same, ownStands, fun node inside cell there =>
    gained.grows.changeable node cell (new node inside) there, fun node old inside => ?_,
    fun node inside => gained.grows.same node inside (by simp), read_grow stands gained.grows⟩
  exact Nat.not_le.2 (stands.lt_size node old) (new node inside)

end

def lone : Forest Text :=
  ⟨#[⟨none, [], some false, [("い".toList, 1)], none, true⟩,
    ⟨some "い".toList, "i".toList, some true, [], some 0, true⟩]⟩

theorem overlay_rules_dog :
    let base : RootedTrie Text := ⟨0, some false, []⟩
    let dog : Mapping Text := .table ⟨[(.text "いぬ".toList, "dog".toList)], by decide⟩
    lone.Stands base.root (.cons "い".toList 1 ⟨"i".toList, some true⟩ .nil .nil) ∧
      base.frozen lone = true ∧
      ∃ laid after, Steps.run (base.overlay Resolver.ruled (some (.written dog))) lone =
          (.ok laid, after) ∧
        (laid.read after).get (Path.ofText "いぬ".toList) [] = "dog".toList ∧
        (laid.read after).get (Path.ofText "い".toList) [] = "i".toList ∧
        (laid.read after).find? (Path.ofText "犬".toList) = none ∧
        (laid.read after).frozen = false ∧ base.read after = base.read lone := by
  intro base dog
  have stands : lone.Stands base.root (.cons "い".toList 1 ⟨"i".toList, some true⟩ .nil .nil) :=
    ⟨⟨_, rfl, rfl⟩, ⟨⟨true, rfl⟩, trivial, trivial⟩, by decide, by decide⟩
  have listed : dog.rules? = some [(Path.ofText "いぬ".toList, "dog".toList)] := rfl
  obtain ⟨laid, after, own, ran, overlays, -, -, -, -, -, same⟩ :=
    base.overlay_rules stands listed (by decide)
  refine ⟨stands, rfl, laid, after, ran, overlays.ruled _ _ _ rfl,
    (overlays.kept _ _ (by decide) rfl (by decide)).2, overlays.unknown _ (by decide) rfl rfl rfl,
    overlays.frozen, same⟩

end RootedTrie
end Honji
