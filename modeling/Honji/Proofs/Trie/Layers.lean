import Honji.Proofs.Trie.Akin

/-!
Rules laid over a trie and further rules laid over the result. Path by path this comes to laying
both over the trie at once, the further rules behind the others: the last token given for a path
counts in either case, and a path is a rule's own in one if it is in the other.
-/

namespace Honji

def Mapping.pairs? {α : Type} : Mapping α → Option (List (Spelling × α))
  | .sequence rules => some rules
  | .table rules => some rules.entries
  | .trie _ => none

def Spelling.rule {α : Type} (pair : Spelling × α) : Path × α :=
  (pair.1.path, pair.2)

theorem Mapping.rules?_eq {α : Type} (mapping : Mapping α) :
    mapping.rules? = mapping.pairs?.map (List.map Spelling.rule) := by
  cases mapping <;> rfl

def Entry.answer {α : Type} (entry : Entry α) : α × Bool :=
  (entry.token, entry.terminal.taken)

namespace Trie
variable {α : Type}

theorem lastToken?_append (first second : List (Path × α)) (path : Path) :
    lastToken? (first ++ second) path =
      (lastToken? second path).or (lastToken? first path) := by
  simp only [lastToken?, List.filter_append, List.getLast?_append]
  cases (second.filter (·.1 = path)).getLast? <;> rfl

theorem rel_akin_iff {one other : Option (Entry α)} :
    Option.Rel (Entry.Akin (· = ·)) one other ↔ one.map Entry.answer = other.map Entry.answer := by
  constructor
  · rintro (⟨token, taken⟩ | _)
    · exact congrArg some (Prod.ext token taken)
    · rfl
  · intro same
    cases one <;> cases other <;> simp only [Option.map_none, Option.map_some, reduceCtorEq,
      Option.some.injEq] at same
    · exact .none
    · obtain ⟨token, taken⟩ := Prod.mk.inj same
      exact .some ⟨token, taken⟩

variable [Token α]

theorem answer_laid {base layer : Trie α} {rules : List (Path × α)} {path : Path}
    (filled : path ≠ [])
    (stands : layer.root.entryAt? path = entryAfter? Token.blank rules none path) :
    ((laid Resolver.ruled base layer).root.entryAt? path).map Entry.answer =
      match lastToken? rules path with
      | some token => some (token, true)
      | none => ((base.root.entryAt? path).map Entry.answer).or
          (if rules.any (path <+: ·.1) then some (Token.blank, false) else none) := by
  cases given : lastToken? rules path with
  | some token => rw [entryAt?_laid_rule filled stands given]; rfl
  | none =>
      cases there : base.root.entryAt? path with
      | some entry =>
          obtain ⟨terminal, taken, same⟩ := entryAt?_laid_base filled stands given there
          rw [same]
          exact congrArg some (Prod.ext rfl taken)
      | none =>
          rw [entryAt?_laid_none filled stands given there]
          split <;> rfl

theorem akin_laid_laid (base : Trie α) {lower upper both : Trie α} {first second : List (Path × α)}
    (lowerStands : ∀ path, path ≠ [] → lower.root.entryAt? path =
      entryAfter? Token.blank first none path)
    (upperStands : ∀ path, path ≠ [] → upper.root.entryAt? path =
      entryAfter? Token.blank second none path)
    (bothStand : ∀ path, path ≠ [] → both.root.entryAt? path =
      entryAfter? Token.blank (first ++ second) none path) :
    Akin (· = ·) (fun _ => True)
      (laid Resolver.ruled (laid Resolver.ruled base lower).freeze upper)
      (laid Resolver.ruled base.freeze both) where
  caseInsensitive := rfl
  entries := fun path filled _ => by
    have inner :
        ((laid Resolver.ruled base lower).freeze.root.entryAt? path).map Entry.answer = _ :=
      answer_laid filled (lowerStands path filled)
    rw [rel_akin_iff, answer_laid filled (upperStands path filled), inner,
      answer_laid filled (bothStand path filled), lastToken?_append, List.any_append]
    cases lastToken? second path with
    | some token => rfl
    | none =>
        cases lastToken? first path with
        | some token => rfl
        | none =>
            simp only [Option.none_or, Option.or_assoc, Bool.or_eq_true]
            congr 1
            -- a path on the way of the lower rules is there already when the upper ones are laid
            by_cases leads : first.any (path <+: ·.1) = true
            · simp only [leads, true_or, if_true, Option.some_or]
            · rw [if_neg leads, Option.none_or]
              simp only [leads, Bool.false_eq_true, false_or]

/--
Rules laid over a trie that already has rules laid over it come to the rules of both in one list,
provided that none of their paths is empty.
-/
theorem overlay_overlay (base : Trie α) {own call : Mapping α} {first second : List (Spelling × α)}
    (ownPairs : own.pairs? = some first) (callPairs : call.pairs? = some second)
    (filled : ∀ pair ∈ first ++ second, pair.1.path ≠ []) : ∃ under above both,
      base.overlay Resolver.ruled (some own) = .ok under ∧
      under.freeze.overlay Resolver.ruled (some call) = .ok above ∧
      base.freeze.overlay Resolver.ruled (some (.sequence (first ++ second))) = .ok both ∧
      Akin (· = ·) (fun _ => True) above both := by
  have layer (mapping : Mapping α) (pairs : List (Spelling × α))
      (written : mapping.pairs? = some pairs) (filled : ∀ pair ∈ pairs, pair.1.path ≠ []) :
      ∃ layer, mapping.toTrie base.caseInsensitive = .ok layer ∧ ∀ path, path ≠ [] →
        layer.root.entryAt? path =
          entryAfter? Token.blank (base.normalized (pairs.map Spelling.rule)) none path := by
    obtain ⟨root, built, stands⟩ := ofRules_eq base.caseInsensitive
      (List.forall_mem_map.2 filled : ∀ rule ∈ pairs.map Spelling.rule, rule.1 ≠ [])
    refine ⟨⟨root, base.caseInsensitive, Token.blank, false⟩, ?_, stands⟩
    rw [toTrie_of_rules? (by rw [mapping.rules?_eq, written]; rfl), built]
  obtain ⟨here, there⟩ := List.forall_mem_append.1 filled
  obtain ⟨lower, lowerGiven, lowerStands⟩ := layer own first ownPairs here
  obtain ⟨upper, upperGiven, upperStands⟩ := layer call second callPairs there
  obtain ⟨both, bothGiven, bothStand⟩ := layer (.sequence (first ++ second)) _ rfl filled
  refine ⟨laid Resolver.ruled base lower,
    laid Resolver.ruled (laid Resolver.ruled base lower).freeze upper,
    laid Resolver.ruled base.freeze both, ?_, ?_, ?_,
    akin_laid_laid base lowerStands upperStands ?_⟩
  · rw [overlay_some, lowerGiven]
    rfl
  · exact (overlay_some ..).trans (congrArg (Except.map _) upperGiven)
  · exact (overlay_some ..).trans (congrArg (Except.map _) bothGiven)
  · simpa only [normalized, List.map_append] using bothStand

end Trie
end Honji
