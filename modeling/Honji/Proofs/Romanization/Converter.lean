import Honji.Proofs.Registry
import Honji.Proofs.Romanization.Compiled
import Honji.Proofs.Trie.Greedy

/-!
What the plain converter of a method works with: a trie that holds the rules of the method.
-/

namespace Honji

/-! ### Looking texts up in a trie that takes symbols as they stand -/

namespace Trie
variable {α : Type} {trie : Trie α}

theorem reach?_eq_find? (caseSensitive : trie.caseInsensitive = false) (node : Node α)
    (text : Text) : trie.reach? node text = node.find? (Path.ofText text) := by
  have steps : trie.step? = Node.child? := by
    funext node symbol
    exact step?_eq_child? (by simp [normalize, caseSensitive])
  rw [reach?, Node.find?, steps]

end Trie

namespace Romanizer

theorem outcome_convert (romanizer : Romanizer) (text : Text) (choice : Choice) :
    (romanizer.convert text choice none).outcome =
      .ok ((romanizer.active.tokenize text).flatMap
        (if romanizer.capitalizes choice then capitalized else Match.token)) := by
  cases text <;> rfl

theorem plain_holds (method : Method) : ∃ romanizer, plain method = .ok romanizer ∧
    (∀ choice, romanizer.capitalizes choice = choice.taken) ∧
    romanizer.active.caseInsensitive = false ∧
    romanizer.active.root.Holds (RomanizationRules.ofMethod method).ruleList := by
  obtain ⟨ruleSet, compiled, -, upcase, caseSensitive, holds⟩ :=
    (RomanizationRules.ofMethod_wellFormed method).compile_holds
  refine ⟨⟨ruleSet, ruleSet.trie.freeze, false, some false⟩, ?_, fun choice => ?_, caseSensitive,
    holds⟩
  · simp [plain, compiled, create, Trie.overlay, bind, Except.bind, pure, Except.pure,
      Trie.freeze]
  · have capital : ruleSet.upcaseKatakana.taken = true := by
      rw [upcase]
      cases method <;> rfl
    rw [capitalizes, capital, Bool.and_true]
    rcases choice with _ | _ | _ <;> rfl

end Romanizer
end Honji
