import Honji.Proofs.Steps
import Honji.Trie.Build

/-!
What the steps by which a trie is built come to.
-/

namespace Honji
namespace Trie
variable {α : Type}

theorem insert_eq_ok {trie built : Trie α} {path : Path} {token : α} :
    trie.insert path token = .ok built ↔ path ≠ [] ∧ trie.frozen = false ∧
      built = { trie with
        root := trie.root.insert trie.placeholder token (path.map trie.normalize) } := by
  unfold insert
  by_cases empty : path = []
  · simp [empty]
  · by_cases frozen : trie.frozen = true
    · simp [empty, frozen]
    · simp only [List.isEmpty_iff, List.map_eq_nil_iff, empty, frozen, Bool.false_eq_true,
        ↓reduceIte, Except.ok.injEq, ne_eq, not_false_eq_true, true_and]
      exact eq_comm

theorem attach_eq_ok {trie built : Trie α} {path : Path} {symbol : Symbol} {child : Node α} :
    trie.attach path symbol child = .ok built ↔
      trie.frozen = false ∧ (trie.root.find? path).any (symbol ∈ ·.keys) = false ∧
        built = { trie with root := trie.root.plant path symbol child } := by
  unfold attach
  by_cases frozen : trie.frozen = true
  · simp [frozen]
  · by_cases taken : (trie.root.find? path).any (symbol ∈ ·.keys) = true
    · simp [frozen, taken]
    · simp only [frozen, taken, Bool.false_eq_true, ↓reduceIte, Except.ok.injEq, true_and]
      exact eq_comm

theorem attach_of_taken {trie : Trie α} (changeable : trie.frozen = false) {path : Path}
    {symbol : Symbol} (taken : (trie.root.find? path).any (symbol ∈ ·.keys) = true)
    (child : Node α) : trie.attach path symbol child = .error (.duplicateKey symbol path) := by
  simp [attach, changeable, taken]

end Trie

namespace Build
variable {α : Type}

@[simp] theorem run_root (trie : Trie Text) : Steps.run root trie = (.ok trie.root, trie) := rfl

theorem run_change_eq_ok {step : Trie Text → Except Failure (Trie Text)} {trie built : Trie Text}
    {value : Unit} : Steps.run (change step) trie = (.ok value, built) ↔ step trie = .ok built := by
  unfold Steps.run change
  cases step trie <;> simp

theorem run_change_of_error {step : Trie Text → Except Failure (Trie Text)} {trie : Trie Text}
    {failure : Failure} (fails : step trie = .error failure) :
    Steps.run (change step) trie = (.error failure, trie) := by
  rw [Steps.run, change, fails]

theorem of_run_insertNew {path : Path} {token : Text} {trie built : Trie Text} {value : Unit}
    (ran : Steps.run (insertNew path token) trie = (.ok value, built)) :
    (trie.find? path).any (·.entry.terminal.taken) = false ∧
      trie.insert path token = .ok built := by
  unfold insertNew at ran
  rw [Steps.run_bind_of_ok (Steps.run_get trie)] at ran
  split at ran
  · cases ran
  · next unruled => exact ⟨Bool.eq_false_iff.2 unruled, run_change_eq_ok.1 ran⟩

theorem build_eq_ok {steps : Build Unit} {trie built : Trie Text} :
    build steps trie = .ok built ↔ Steps.run steps trie = (.ok (), built) := by
  unfold build Steps.run
  rcases steps trie with ⟨_ | _, _⟩ <;> simp

theorem build_eq_error {steps : Build Unit} {trie left : Trie Text} {failure : Failure}
    (ran : Steps.run steps trie = (.error failure, left)) : build steps trie = .error failure := by
  rw [Steps.run] at ran
  rw [build, ran]

end Build
end Honji
