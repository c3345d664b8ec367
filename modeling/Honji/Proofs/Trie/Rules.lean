import Honji.Proofs.Trie.Alike

/-!
A caller's rules can be used unless one of them has an empty path.
-/

namespace Honji
namespace Trie
variable {α : Type}

theorem insert_of_ne_nil {trie : Trie α} (changeable : trie.frozen = false) {path : Path}
    (filled : path ≠ []) (token : α) :
    trie.insert path token = .ok { trie with
      root := trie.root.insert trie.placeholder token (path.map trie.normalize) } := by
  simp [insert, filled, changeable]

theorem insertAll_cases (trie : Trie α) (changeable : trie.frozen = false)
    (rules : List (Path × α)) :
    ([] ∈ rules.map Prod.fst ∧ trie.insertAll rules = .error .emptyPath) ∨
      ([] ∉ rules.map Prod.fst ∧ ∃ built, trie.insertAll rules = .ok built) := by
  induction rules generalizing trie with
  | nil => exact .inr ⟨by simp, trie, rfl⟩
  | cons rule rules ih =>
      obtain ⟨path, token⟩ := rule
      rw [insertAll, List.foldlM_cons]
      by_cases empty : path = []
      · exact .inl ⟨by simp [empty], by simp [insert, empty, bind, Except.bind]⟩
      · rw [insert_of_ne_nil changeable empty]
        rcases ih { trie with
          root := trie.root.insert trie.placeholder token (path.map trie.normalize) } changeable
          with ⟨later, fails⟩ | ⟨filled, built, puts⟩
        · exact .inl ⟨List.mem_cons_of_mem _ later, fails⟩
        · exact .inr ⟨by simpa [Ne.symm empty] using filled, built, puts⟩

end Trie

namespace Mapping
variable {α : Type}

def paths : Mapping α → List Path
  | .sequence rules => rules.map (·.1.path)
  | .table rules => rules.entries.map (·.1.path)
  | .trie _ => []

def pathsOf (mapping : Option (Mapping α)) : List Path :=
  mapping.elim [] paths

theorem toTrie_cases [Token α] (mapping : Mapping α) (caseInsensitive : Bool) :
    ([] ∈ mapping.paths ∧ mapping.toTrie caseInsensitive = .error .emptyPath) ∨
      ([] ∉ mapping.paths ∧ ∃ trie, mapping.toTrie caseInsensitive = .ok trie) := by
  cases mapping with
  | sequence rules =>
      simpa [paths, toTrie, Trie.ofRules] using Trie.insertAll_cases
        (Trie.empty caseInsensitive Token.blank) rfl
        (rules.map fun rule => (rule.1.path, rule.2))
  | table rules =>
      simpa [paths, toTrie, Trie.ofRules] using Trie.insertAll_cases
        (Trie.empty caseInsensitive Token.blank) rfl
        (rules.entries.map fun rule => (rule.1.path, rule.2))
  | trie rules => exact .inr ⟨by simp [paths], rules, rfl⟩

end Mapping

theorem Trie.overlay_cases {α : Type} [Token α] (resolve : Resolver α) (base : Trie α)
    (mapping : Option (Mapping α)) :
    ([] ∈ Mapping.pathsOf mapping ∧ base.overlay resolve mapping = .error .emptyPath) ∨
      ([] ∉ Mapping.pathsOf mapping ∧ ∃ trie, base.overlay resolve mapping = .ok trie) := by
  cases mapping with
  | none => exact .inr ⟨by simp [Mapping.pathsOf], base, rfl⟩
  | some mapping =>
      rcases mapping.toTrie_cases base.caseInsensitive with ⟨empty, fails⟩ | ⟨filled, rules, given⟩
      · exact .inl ⟨empty, by simp [overlay, fails, bind, Except.bind]⟩
      · exact .inr ⟨filled, _, by simp [overlay, given, bind, Except.bind]; rfl⟩

theorem Trie.Alike.overlay_cases {α : Type} [Token α] {first second : Trie α}
    (alike : first.Alike second) (resolve : Resolver α) (mapping : Option (Mapping α)) :
    ([] ∈ Mapping.pathsOf mapping ∧ first.overlay resolve mapping = .error .emptyPath) ∨
      ([] ∉ Mapping.pathsOf mapping ∧ ∃ laid other, first.overlay resolve mapping = .ok laid ∧
        second.overlay resolve mapping = .ok other ∧ laid.Alike other) := by
  have agree := alike.overlay resolve mapping
  rcases first.overlay_cases resolve mapping with refused | ⟨filled, laid, given⟩
  · exact .inl refused
  · rw [given] at agree
    generalize also : second.overlay resolve mapping = outcome at agree
    cases agree with
    | ok alike => exact .inr ⟨filled, laid, _, given, rfl, alike⟩

end Honji
