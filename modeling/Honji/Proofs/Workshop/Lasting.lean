import Honji.Proofs.Forest.Descent
import Honji.Proofs.Forest.Freezing

/-!
What lasts in a forest. Computations that write new nodes only leave all that was there as it was;
a trie that is frozen in all its nodes then reads the same for good. Publishing a trie and laying a
caller's rules over one are such computations, and what they come to is what the tries that are read
come to.
-/

namespace Honji

namespace RootedTrie
variable {α : Type} {before after forest : Forest α} {trie : RootedTrie α}

structure Lasting (trie : RootedTrie α) (forest : Forest α) : Prop where
  stands : ∃ layout, forest.Stands trie.root layout
  frozen : ∀ node, forest.Within trie.root node →
    ∃ cell, forest.cell? node = some cell ∧ cell.frozen = true

theorem Lasting.keep (lasting : trie.Lasting before) (keeps : before.Keeps after) :
    trie.Lasting after := by
  obtain ⟨⟨layout, stands⟩, frozen⟩ := lasting
  refine ⟨⟨layout, stands.keep keeps⟩, fun node within => ?_⟩
  obtain ⟨cell, there, marked⟩ := frozen node
    (stands.within_iff.2 ((stands.keep keeps).within_iff.1 within))
  exact ⟨cell, keeps node cell there, marked⟩

theorem Lasting.freeze_read (lasting : trie.Lasting forest) :
    (trie.read forest).freeze = trie.read forest := by
  obtain ⟨⟨layout, stands⟩, frozen⟩ := lasting
  obtain ⟨cell, there, -⟩ := stands.top
  obtain ⟨_, same, marked⟩ := frozen trie.root .top
  obtain rfl := Option.some.inj (there.symm.trans same)
  rw [read_eq (stands.tree?_eq there), RootedTrie.frozen, there, Option.any_some, marked]
  rfl

theorem run_freeze (trie : RootedTrie α) {tree : Node α}
    (gained : Forest.Gained before forest trie.root tree) :
    ∃ after, Steps.run trie.freeze forest = (.ok (), after) ∧ before.Keeps after ∧
      trie.Lasting after ∧ trie.read after = (trie.read forest).freeze := by
  obtain ⟨layout, stands, new⟩ := gained.stands
  obtain ⟨after, ran, frozen, others⟩ := stands.run_freeze
  have still := stands.freeze frozen
  refine ⟨after, ran, fun node cell there => ?_, ⟨⟨layout, still⟩, fun node within => ?_⟩,
    read_freeze stands frozen⟩
  · have old : node ∉ trie.root :: layout.nodes := fun inside =>
      Nat.not_lt.2 (new node inside) (Forest.lt_size_of_cell? there)
    rw [others node old, gained.grows.keeps node cell there]
  · have inside := still.within_iff.1 within
    obtain ⟨cell, there⟩ := stands.exists_cell inside
    exact ⟨cell.freeze, by rw [frozen node inside, there]; rfl, rfl⟩

def publish (trie : Trie α) : ForestM α (RootedTrie α) := do
  let planted ← plant trie trie.caseInsensitive
  planted.freeze
  return planted

theorem comes_publish (trie : Trie α) (forest : Forest α) :
    Steps.Comes Forest.Keeps forest (publish trie)
      (fun planted after content => planted.Lasting after ∧ planted.read after = content)
      (.ok trie.freeze) := by
  obtain ⟨between, ran, gained⟩ := Forest.run_plant none trie.root forest
  let planted : RootedTrie α := ⟨forest.cells.size, some trie.caseInsensitive, trie.placeholder⟩
  obtain ⟨after, froze, keeps, lasting, read⟩ := planted.run_freeze gained
  have rooted : Steps.run (plant trie trie.caseInsensitive) forest = (.ok planted, between) :=
    Steps.run_bind_of_ok ran
  refine .ok ((Steps.run_bind_of_ok rooted).trans (Steps.run_bind_of_ok froze)) keeps ⟨lasting, ?_⟩
  rw [read, read_eq gained.read]
  rfl

section
variable [Token α]

def lay (base : RootedTrie α) (mapping : Option (Mapping α)) : ForestM α (RootedTrie α) :=
  base.overlay Resolver.ruled (mapping.map .written)

def customize (base : RootedTrie α) : Option (Mapping α) → ForestM α (RootedTrie α)
  | none => return base
  | some mapping => do
      let laid ← base.lay (some mapping)
      laid.freeze
      return laid

theorem run_lay_some (base : RootedTrie α) {layout : Layout α}
    (stands : forest.Stands base.root layout) (mapping : Mapping α) :
    match (base.read forest).overlay Resolver.ruled (some mapping) with
    | .error failure => Steps.run (base.lay (some mapping)) forest = (.error failure, forest)
    | .ok given => ∃ laid after, Steps.run (base.lay (some mapping)) forest = (.ok laid, after) ∧
        laid.read after = given ∧ Forest.Gained forest after laid.root given.root := by
  have ran := run_overlay Resolver.ruled base stands (.written mapping) (by simp)
  rw [RuleSource.mapping] at ran
  generalize (base.read forest).overlay Resolver.ruled (some mapping) = outcome at ran ⊢
  cases outcome with
  | error failure => exact ran
  | ok given =>
      obtain ⟨laid, after, ran, read, -, gained⟩ := ran
      obtain rfl := read Resolver.plain_ruled
      exact ⟨laid, after, ran, rfl, gained⟩

theorem Lasting.comes_lay {base : RootedTrie α} (lasting : base.Lasting forest)
    (mapping : Option (Mapping α)) :
    Steps.Comes Forest.Keeps forest (base.lay mapping)
      (fun laid after given => (∃ layout, after.Stands laid.root layout) ∧ laid.read after = given)
      ((base.read forest).overlay Resolver.ruled mapping) := by
  obtain ⟨layout, stands⟩ := lasting.stands
  cases mapping with
  | none => exact .pure ⟨⟨layout, stands⟩, rfl⟩
  | some mapping =>
      have ran := run_lay_some base stands mapping
      generalize (base.read forest).overlay Resolver.ruled (some mapping) = outcome at ran ⊢
      cases outcome with
      | error failure => exact .error ran (Std.Refl.refl forest)
      | ok given =>
          obtain ⟨laid, after, ran, read, gained⟩ := ran
          obtain ⟨own, ownStands, -⟩ := gained.stands
          exact .ok ran gained.grows.keeps ⟨⟨own, ownStands⟩, read⟩

theorem Lasting.comes_customize {base : RootedTrie α} (lasting : base.Lasting forest)
    (mapping : Option (Mapping α)) :
    Steps.Comes Forest.Keeps forest (base.customize mapping)
      (fun own after given => own.Lasting after ∧ own.read after = given.freeze)
      ((base.read forest).overlay Resolver.ruled mapping) := by
  obtain ⟨layout, stands⟩ := lasting.stands
  cases mapping with
  | none => exact .pure ⟨lasting, lasting.freeze_read.symm⟩
  | some mapping =>
      have ran := run_lay_some base stands mapping
      generalize (base.read forest).overlay Resolver.ruled (some mapping) = outcome at ran ⊢
      cases outcome with
      | error failure =>
        exact .error (by rw [customize, Steps.run_bind, ran]) (Std.Refl.refl forest)
      | ok given =>
        obtain ⟨laid, between, ran, read, gained⟩ := ran
        obtain ⟨after, froze, keeps, own, marked⟩ := laid.run_freeze gained
        exact .ok ((Steps.run_bind_of_ok ran).trans (Steps.run_bind_of_ok froze)) keeps
          ⟨own, by rw [marked, read]⟩

end
end RootedTrie
end Honji
