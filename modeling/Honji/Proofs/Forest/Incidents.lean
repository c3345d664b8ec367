import Honji.Proofs.Forest.Descent
import Honji.Proofs.Forest.History

/-!
What can happen to a forest besides operations: a node is released once nobody holds it, and then
its children have no parent any more. Nodes stay owned all the same, and tries stay trees of their
own.
-/

namespace Honji

/--
What can happen to a forest. Besides operations, a node may no longer be held by anyone; parents are
known to their children only as long as they are held.
-/
inductive Incident (α : Type) where
  | operation (operation : Operation α)
  | release (node : NodeId)

namespace Forest
variable {α : Type}

variable {forest : Forest α} {node : Nat}

theorem cell?_release (forest : Forest α) (node other : Nat) :
    (forest.release node).cell? other = (forest.cell? other).map fun cell =>
      { cell with
        children := if other = node then [] else cell.children
        parent := if other ∈ forest.childrenOf node then none else cell.parent } := by
  simp [cell?, release, Array.getElem?_mapIdx]

theorem evolves_release (owned : forest.Owned) (node : Nat) :
    forest.Evolves (forest.release node) where
  owned := by
    refine ⟨fun other cell there link member => ?_, fun other cell there => ?_⟩ <;>
      rw [cell?_release] at there <;>
      obtain ⟨earlier, known, rfl⟩ := Option.map_eq_some_iff.1 there <;>
      by_cases same : other = node
    · simp [same] at member
    · simp only [same, if_false] at member
      obtain ⟨child, found, key, up⟩ := owned.linked other earlier known link member
      refine ⟨_, (cell?_release forest node link.2).trans (congrArg _ found), key, ?_⟩
      -- a child of another node is not a child of the released one
      have kept : link.2 ∉ forest.childrenOf node := by
        intro stored
        cases there : forest.cell? node with
        | none => simp [childrenOf, there] at stored
        | some cell =>
            obtain ⟨foundToo, hereToo, upToo⟩ := owned.exists_parent there
              (by simpa [childrenOf, there] using stored)
            obtain rfl := Option.some.inj (found.symm.trans hereToo)
            exact same (Option.some.inj (up.symm.trans upToo))
      exact (if_neg kept).trans up
    · simp [Cell.keys, same]
    · simpa [Cell.keys, same] using owned.distinct other earlier known
  keys := fun other cell there =>
    ⟨_, (cell?_release forest node other).trans (congrArg _ there), rfl⟩

end Forest

namespace Woods
variable {α : Type}

def Admits (woods : Woods α) : Incident α → Prop
  | .operation operation => woods.Knows operation
  | .release node => woods.forest.Unstored node

instance [DecidableEq α] (woods : Woods α) : (incident : Incident α) →
    Decidable (woods.Admits incident)
  | .operation operation => inferInstanceAs (Decidable (woods.Knows operation))
  | .release node => inferInstanceAs (Decidable (woods.forest.Unstored node))

def undergo [Token α] (woods : Woods α) : Incident α → Woods α
  | .operation operation => woods.perform operation
  | .release node => ⟨woods.forest.release node, woods.tries⟩

def AdmitsAll [Token α] : Woods α → List (Incident α) → Prop
  | _, [] => True
  | woods, incident :: rest => woods.Admits incident ∧ (woods.undergo incident).AdmitsAll rest

instance decidableAdmitsAll [Token α] [DecidableEq α] :
    (woods : Woods α) → (incidents : List (Incident α)) → Decidable (woods.AdmitsAll incidents)
  | _, [] => isTrue trivial
  | woods, incident :: rest =>
      have : Decidable ((woods.undergo incident).AdmitsAll rest) := decidableAdmitsAll _ rest
      inferInstanceAs (Decidable (_ ∧ _))

def undergoAll [Token α] (woods : Woods α) (incidents : List (Incident α)) : Woods α :=
  incidents.foldl undergo woods

variable {woods : Woods α}

theorem Tended.exists_stands (tended : woods.Tended) {trie : RootedTrie α}
    (made : trie ∈ woods.tries) : ∃ layout, woods.forest.Stands trie.root layout := by
  obtain ⟨cell, there, unnamed⟩ := tended.rooted trie made
  exact tended.owned.exists_stands there (tended.owned.unstored there unnamed)

variable [Token α]

theorem subset_undergo (woods : Woods α) (incident : Incident α) :
    woods.tries ⊆ (woods.undergo incident).tries := by
  cases incident with
  | operation operation =>
      rw [undergo, perform]
      rcases Steps.run operation.act woods.forest with ⟨_ | _ | trie, _⟩
      · exact List.Subset.refl _
      · exact List.Subset.refl _
      · exact List.subset_cons_self trie _
  | release node => exact List.Subset.refl _

theorem subset_undergoAll (woods : Woods α) (incidents : List (Incident α)) :
    woods.tries ⊆ (woods.undergoAll incidents).tries := by
  induction incidents generalizing woods with
  | nil => exact List.Subset.refl _
  | cons incident rest ih => exact List.Subset.trans (woods.subset_undergo incident) (ih _)

theorem Tended.undergo (tended : woods.Tended) {incident : Incident α}
    (admitted : woods.Admits incident) : (woods.undergo incident).Tended := by
  cases incident with
  | operation operation => exact tended.perform admitted
  | release node =>
      have evolves := Forest.evolves_release tended.owned node
      exact ⟨evolves.owned, fun trie made => (tended.rooted trie made).evolve evolves⟩

theorem Tended.undergoAll (tended : woods.Tended) {incidents : List (Incident α)}
    (admitted : woods.AdmitsAll incidents) : (woods.undergoAll incidents).Tended := by
  induction incidents generalizing woods with
  | nil => exact tended
  | cons incident rest ih => exact ih (tended.undergo admitted.1) admitted.2

theorem forest_perform (woods : Woods α) (operation : Operation α) :
    (woods.perform operation).forest = (Steps.run operation.act woods.forest).2 := by
  rw [perform]
  rcases Steps.run operation.act woods.forest with ⟨_ | _ | _, _⟩ <;> rfl

end Woods

end Honji
