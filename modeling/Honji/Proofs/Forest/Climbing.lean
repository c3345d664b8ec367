import Honji.Proofs.Forest.Layout
import Mathlib.Data.Fintype.Card

/-!
Ways up. If the way up from a node ends, the nodes on it are at different distances from its end, so
that it has no more steps than the forest has nodes; the path of the node is what was collected.
-/

namespace Honji
namespace Forest
variable {α : Type} {forest : Forest α} {node parent : Nat} {symbol : Symbol} {cell : Cell α}
  {symbols : Path}

theorem climb?_of_parent (there : forest.cell? node = some cell) (key : cell.key = some symbol)
    (up : cell.parent = some parent) (steps : Nat) (collected : Path) :
    forest.climb? (steps + 1) node collected =
      forest.climb? steps parent (symbol :: collected) := by
  rw [climb?, there]
  simp only [key, up]

theorem climb?_cases (forest : Forest α) (node : Nat) :
    (∃ last, ∀ steps collected, forest.climb? (steps + 1) node collected =
        some (last ++ collected)) ∨
      ∃ cell symbol parent, forest.cell? node = some cell ∧ cell.key = some symbol ∧
        cell.parent = some parent := by
  cases there : forest.cell? node with
  | none => exact .inl ⟨[], fun steps collected => by rw [climb?, there]; rfl⟩
  | some cell =>
      rcases key : cell.key with _ | symbol
      · exact .inl ⟨[], fun steps collected => by rw [climb?, there]; simp [key]⟩
      rcases up : cell.parent with _ | parent
      · exact .inl ⟨[symbol], fun steps collected => by rw [climb?, there]; simp [key, up]⟩
      · exact .inr ⟨cell, symbol, parent, rfl, key, up⟩

theorem climb?_append (steps : Nat) (node : Nat) (collected : Path) :
    forest.climb? steps node collected = (forest.climb? steps node []).map (· ++ collected) := by
  induction steps generalizing node collected with
  | zero => rfl
  | succ steps ih =>
      rcases climb?_cases forest node with ⟨last, ends⟩ | ⟨_, symbol, parent, there, key, up⟩
      · simp [ends]
      · rw [climb?_of_parent there key up, climb?_of_parent there key up, ih,
          ih parent [symbol], Option.map_map]
        congr 1
        funext above
        simp

theorem climb?_mono {steps more : Nat} {collected : Path}
    (ends : forest.climb? steps node collected = some symbols) (enough : steps ≤ more) :
    forest.climb? more node collected = some symbols := by
  induction steps generalizing node more collected with
  | zero => cases ends
  | succ steps ih =>
      obtain ⟨more, rfl⟩ : ∃ fewer, more = fewer + 1 := ⟨more - 1, by omega⟩
      rcases climb?_cases forest node with ⟨last, above⟩ | ⟨_, _, _, there, key, up⟩
      · rw [above] at ends ⊢
        exact ends
      · rw [climb?_of_parent there key up] at ends ⊢
        exact ih ends (Nat.le_of_succ_le_succ enough)

def Rises (forest : Forest α) (node : NodeId) (steps : Nat) : Prop :=
  forest.climb? steps node [] = none ∧ (forest.climb? (steps + 1) node []).isSome

namespace Rises
variable {steps other : Nat}

theorem steps_le (rises : forest.Rises node steps) (too : forest.Rises node other) :
    steps ≤ other := by
  obtain ⟨symbols, ends⟩ := Option.isSome_iff_exists.1 too.2
  by_contra more
  cases rises.1.symm.trans (climb?_mono ends (by omega))

theorem exists_parent (rises : forest.Rises node (steps + 1)) :
    node < forest.cells.size ∧ ∃ parent, forest.Rises parent steps := by
  rcases climb?_cases forest node with ⟨last, ends⟩ | ⟨_, symbol, parent, there, key, up⟩
  · cases rises.1.symm.trans (ends steps [])
  · have moved (enough : Nat) : forest.climb? (enough + 1) node [] =
        (forest.climb? enough parent []).map (· ++ [symbol]) := by
      rw [climb?_of_parent there key up, climb?_append]
    refine ⟨lt_size_of_cell? there, parent, ?_, ?_⟩
    · simpa [moved] using rises.1
    · simpa [moved] using rises.2

theorem exists_between (rises : forest.Rises node steps) {fewer : Nat} (less : fewer < steps) :
    ∃ between : Fin forest.cells.size, forest.Rises between (fewer + 1) := by
  induction steps generalizing node with
  | zero => omega
  | succ steps ih =>
      obtain ⟨inside, parent, above⟩ := rises.exists_parent
      by_cases last : fewer = steps
      · exact ⟨⟨node, inside⟩, last ▸ rises⟩
      · exact ih above (by omega)

theorem steps_le_size (rises : forest.Rises node steps) : steps ≤ forest.cells.size := by
  -- nodes at different distances from the end are different nodes
  choose between distant using fun fewer : Fin steps => rises.exists_between fewer.isLt
  have apart : Function.Injective between := by
    intro first second same
    have near := distant second
    rw [← same] at near
    have le := (distant first).steps_le near
    have ge := near.steps_le (distant first)
    exact Fin.ext (by omega)
  simpa using Fintype.card_le_of_injective between apart

end Rises

theorem exists_rises {steps : Nat} (ends : forest.climb? steps node [] = some symbols) :
    ∃ needed, forest.Rises node needed := by
  induction steps with
  | zero => cases ends
  | succ steps ih =>
      cases earlier : forest.climb? steps node [] with
      | none => exact ⟨steps, earlier, by rw [ends]; rfl⟩
      | some found =>
          have same := (climb?_mono earlier (Nat.le_succ steps)).symm.trans ends
          exact ih (earlier.trans same)

theorem climb?_size {steps : Nat} (ends : forest.climb? steps node [] = some symbols) :
    forest.climb? (forest.cells.size + 1) node [] = some symbols := by
  obtain ⟨needed, rises⟩ := exists_rises ends
  obtain ⟨found, climbed⟩ := Option.isSome_iff_exists.1 rises.2
  have first := climb?_mono climbed (Nat.le_max_left (needed + 1) steps)
  have second := climb?_mono ends (Nat.le_max_right (needed + 1) steps)
  obtain rfl := Option.some.inj (first.symm.trans second)
  exact climb?_mono climbed (Nat.succ_le_succ rises.steps_le_size)

theorem path_eq {steps : Nat} (ends : forest.climb? steps node [] = some symbols) :
    forest.path node = symbols := by
  rw [path, climb?_size ends, Option.getD_some]

end Forest
end Honji
