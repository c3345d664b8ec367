import Honji.Proofs.Forest.Merging
import Honji.Proofs.Trie.Order

/-!
The algebra of laying branches over one another. Siblings that only the second tree has follow those
of the first. Laying is associative if the resolver is, and idempotent if the resolver is.
-/

namespace Honji

theorem Choice.either_assoc (first second third : Choice) :
    (first.either second).either third = first.either (second.either third) := by
  cases said : first.taken <;> simp [either, said]

@[simp] theorem Choice.either_self (choice : Choice) : choice.either choice = choice := by
  simp [either]

namespace Resolver
variable {α : Type}

def Associative (resolve : Resolver α) : Prop :=
  ∀ first second third : Entry α,
    resolve (Entry.alone ⟨resolve first.alone second.alone,
        first.terminal.either second.terminal⟩) third.alone =
      resolve first.alone (Entry.alone ⟨resolve second.alone third.alone,
        second.terminal.either third.terminal⟩)

def Idempotent (resolve : Resolver α) : Prop :=
  ∀ entry : Entry α, resolve entry.alone entry.alone = entry.token

theorem associative_later : (later : Resolver α).Associative :=
  fun _ _ _ => rfl

theorem associative_earlier : (earlier : Resolver α).Associative :=
  fun _ _ _ => rfl

theorem associative_ruled : (ruled : Resolver α).Associative := by
  intro first second third
  cases own : third.terminal.taken
  · cases before : second.terminal.taken <;> simp [ruled, Entry.alone, own, before]
  · simp [ruled, Entry.alone, own]

theorem idempotent_later : (later : Resolver α).Idempotent :=
  fun _ => rfl

theorem idempotent_earlier : (earlier : Resolver α).Idempotent :=
  fun _ => rfl

theorem idempotent_ruled : (ruled : Resolver α).Idempotent :=
  fun entry => ite_self entry.token

end Resolver

namespace Branches
variable {α : Type}

theorem erase_comm (branches : Branches α) (symbol key : Symbol) :
    (branches.erase symbol).erase key = (branches.erase key).erase symbol := by
  induction branches with
  | nil => rfl
  | cons head entry below rest _ ih =>
      by_cases first : head = symbol <;> by_cases second : head = key
      · rw [← first, second]
      · simp [erase, first, first ▸ second]
      · simp [erase, second, second ▸ first]
      · simp [erase, first, second, ih]

theorem erase_merge (resolve : Resolver α) (first second : Branches α) (symbol : Symbol) :
    (first.merge resolve second).erase symbol =
      (first.erase symbol).merge resolve (second.erase symbol) := by
  induction first generalizing second with
  | nil => rfl
  | cons head entry below rest _ ih =>
      by_cases same : head = symbol
      · subst same
        cases found : second.lookup head with
        | none => simp [merge, erase, found, Forest.erase_of_notMem (lookup_eq_none_iff.1 found)]
        | some other => simp [merge, erase, found]
      · have looked : (second.erase symbol).lookup head = second.lookup head :=
          lookup_erase_of_ne (Ne.symm same) second
        cases found : second.lookup head with
        | none => simp [merge, erase, same, looked, found, ih]
        | some other => simp [merge, erase, same, looked, found, ih, erase_comm _ symbol head]

theorem keys_erase {branches : Branches α} (distinct : branches.Distinct) (symbol : Symbol) :
    (branches.erase symbol).keys = branches.keys.filter (· ≠ symbol) := by
  induction branches with
  | nil => rfl
  | cons head entry below rest _ ih =>
      obtain ⟨fresh, -, later⟩ := distinct
      by_cases same : head = symbol
      · subst same
        have others : rest.keys.filter (· ≠ head) = rest.keys :=
          List.filter_eq_self.2 fun key member => by simpa using ne_of_mem_of_not_mem member fresh
        simpa [erase, keys] using others.symm
      · simp [erase, keys, same, ih later]

theorem keys_merge (resolve : Resolver α) (first : Branches α) {second : Branches α}
    (distinct : second.Distinct) :
    (first.merge resolve second).keys =
      first.keys ++ second.keys.filter (· ∉ first.keys) := by
  induction first generalizing second with
  | nil => simp [merge, keys]
  | cons symbol entry below rest _ ih =>
      cases found : second.lookup symbol with
      | none =>
          have absent := lookup_eq_none_iff.1 found
          rw [merge, found]
          simp only [keys, ih distinct, List.cons_append]
          refine congrArg _ (congrArg _ (List.filter_congr fun key member => ?_))
          simp [ne_of_mem_of_not_mem member absent]
      | some other =>
          simp [merge, found, keys, ih (distinct.erase symbol), keys_erase distinct,
            List.filter_filter, Bool.and_comm]

section
variable {resolve : Resolver α} (plain : resolve.Plain)
include plain

theorem merge_cons_of_plain (symbol : Symbol) (entry : Entry α) (below rest other : Branches α) :
    (cons symbol entry below rest).merge resolve other =
      match other.lookup symbol with
      | none => cons symbol entry below (rest.merge resolve other)
      | some (otherEntry, otherBelow) =>
          cons symbol ⟨resolve entry.alone otherEntry.alone,
              entry.terminal.either otherEntry.terminal⟩
            (below.merge resolve otherBelow) (rest.merge resolve (other.erase symbol)) := by
  rw [merge]
  cases other.lookup symbol with
  | none => rfl
  | some found => simp only [plain.beneath, plain ⟨entry, [], below⟩]

theorem lookup_merge_of_plain (first second : Branches α) (key : Symbol) :
    (first.merge resolve second).lookup key =
      match first.lookup key, second.lookup key with
      | some (entry, below), some (other, otherBelow) =>
          some (⟨resolve entry.alone other.alone, entry.terminal.either other.terminal⟩,
            below.merge resolve otherBelow)
      | some found, none => some found
      | none, found => found := by
  rw [lookup_merge]
  cases first.lookup key <;> cases second.lookup key
  · rfl
  · rfl
  · rfl
  · next one other => simp only [plain.beneath, plain ⟨one.1, [], one.2⟩]

theorem merge_assoc (associative : resolve.Associative) (first second third : Branches α) :
    (first.merge resolve second).merge resolve third =
      first.merge resolve (second.merge resolve third) := by
  induction first generalizing second third with
  | nil => rfl
  | cons symbol entry below rest belowHyp restHyp =>
      have looked := lookup_merge_of_plain plain second third symbol
      have erased := erase_merge resolve second third symbol
      -- the first sibling meets a sibling of the second, of the third, of both or of neither
      cases foundTwo : second.lookup symbol with
      | none =>
          rw [Forest.erase_of_notMem (lookup_eq_none_iff.1 foundTwo)] at erased
          cases foundThree : third.lookup symbol with
          | none =>
              rw [foundTwo, foundThree] at looked
              simp [merge_cons_of_plain plain, foundTwo, foundThree, looked, restHyp]
          | some other =>
              rw [foundTwo, foundThree] at looked
              simp [merge_cons_of_plain plain, foundTwo, foundThree, looked, erased, restHyp]
      | some other =>
          cases foundThree : third.lookup symbol with
          | none =>
              rw [Forest.erase_of_notMem (lookup_eq_none_iff.1 foundThree)] at erased
              rw [foundTwo, foundThree] at looked
              simp [merge_cons_of_plain plain, foundTwo, foundThree, looked, erased, restHyp]
          | some another =>
              rw [foundTwo, foundThree] at looked
              simp [merge_cons_of_plain plain, foundTwo, foundThree, looked, erased, restHyp,
                belowHyp, Choice.either_assoc, associative entry other.1 another.1]

theorem merge_self (idempotent : resolve.Idempotent) (branches : Branches α) :
    branches.merge resolve branches = branches := by
  induction branches with
  | nil => rfl
  | cons symbol entry below rest belowHyp restHyp =>
      simp [merge_cons_of_plain plain, lookup, erase, belowHyp, restHyp, idempotent entry]

end

end Branches

namespace Node
variable {α : Type}

theorem keysAt_merge (resolve : Resolver α) (first second : Node α) (path : Path) :
    (first.merge resolve second).keysAt path =
      first.keysAt path ++ (second.keysAt path).filter (· ∉ first.keysAt path) := by
  rw [keysAt, keysAt, keysAt, find?_merge]
  cases first.find? path <;> cases second.find? path
  · rfl
  · simp
  · simp
  · next one other => exact Branches.keys_merge (resolve.beneath path path) one.below other.distinct

end Node
end Honji
