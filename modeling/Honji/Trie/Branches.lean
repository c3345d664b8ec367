import Honji.Choice
import Honji.Text.Basic

/-!
The branches below a node of a trie. Siblings stand in the order in which they were added, and in
a well-formed tree no two of them share a symbol (`Branches.Distinct`). Each operation comes with
the fact that it keeps siblings distinct.
-/

namespace Honji

/--
What a node holds: its token, and whether a rule put it there or it only lies on the way. A node
for which that was left open lies on the way.
-/
structure Entry (α : Type) where
  token : α
  terminal : Choice
  deriving DecidableEq

/-- Sibling nodes in order, each with the symbol that leads to it and the branches below it. -/
inductive Branches (α : Type) where
  | nil
  | cons (symbol : Symbol) (entry : Entry α) (below rest : Branches α)
  deriving DecidableEq

/--
What there is to be seen of a node: its entry, the path that leads to it, which ends with its own
symbol, and the branches below it.
-/
structure Sight (α : Type) extends Entry α where
  path : Path
  below : Branches α

def Sight.behind {α : Type} (above : Path) (sight : Sight α) : Sight α :=
  { sight with path := above ++ sight.path }

/-- How the tokens of two nodes become one; the first node is the one already there. -/
abbrev Resolver (α : Type) := Sight α → Sight α → α

def Resolver.beneath {α : Type} (resolve : Resolver α) (first second : Path) : Resolver α :=
  fun one other => resolve (one.behind first) (other.behind second)

namespace Branches
variable {α β : Type}

def keys : Branches α → List Symbol
  | nil => []
  | cons symbol _ _ rest => symbol :: rest.keys

def lookup (symbol : Symbol) : Branches α → Option (Entry α × Branches α)
  | nil => none
  | cons head entry below rest => if head = symbol then some (entry, below) else rest.lookup symbol

def Distinct : Branches α → Prop
  | nil => True
  | cons symbol _ below rest => symbol ∉ rest.keys ∧ below.Distinct ∧ rest.Distinct

def snoc : Branches α → Symbol → Entry α → Branches α → Branches α
  | nil, symbol, entry, below => cons symbol entry below nil
  | cons head headEntry headBelow rest, symbol, entry, below =>
      cons head headEntry headBelow (rest.snoc symbol entry below)

def add (siblings : Branches α) (symbol : Symbol) (entry : Entry α) (below : Branches α) :
    Branches α :=
  if symbol ∈ siblings.keys then siblings else siblings.snoc symbol entry below

def erase (symbol : Symbol) : Branches α → Branches α
  | nil => nil
  | cons head entry below rest =>
      if head = symbol then rest else cons head entry below (rest.erase symbol)

def filterKeys (keep : Symbol → Bool) : Branches α → Branches α
  | nil => nil
  | cons symbol entry below rest =>
      if keep symbol then cons symbol entry below (rest.filterKeys keep)
      else rest.filterKeys keep

def chain (blank token : α) : Path → Branches α
  | [] => nil
  | [symbol] => cons symbol ⟨token, true⟩ nil nil
  | symbol :: path => cons symbol ⟨blank, false⟩ (chain blank token path) nil

/-- Puts a token at the end of a path; nodes that are missing on the way hold the blank token. -/
def insert (blank token : α) : Branches α → Path → Branches α
  | nil, path => chain blank token path
  | cons head entry below rest, [] => cons head entry below rest
  | cons head entry below rest, [symbol] =>
      if head = symbol then cons head ⟨token, true⟩ below rest
      else cons head entry below (rest.insert blank token [symbol])
  | cons head entry below rest, symbol :: next :: path =>
      if head = symbol then cons head entry (below.insert blank token (next :: path)) rest
      else cons head entry below (rest.insert blank token (symbol :: next :: path))

def plant : Branches α → Path → Symbol → Entry α → Branches α → Branches α
  | siblings, [], symbol, entry, child => siblings.add symbol entry child
  | nil, _ :: _, _, _, _ => nil
  | cons head headEntry below rest, step :: path, symbol, entry, child =>
      if head = step then cons head headEntry (below.plant path symbol entry child) rest
      else cons head headEntry below (rest.plant (step :: path) symbol entry child)

def relabel (change : Path → Entry α → β) (above : Path) : Branches α → Branches β
  | nil => nil
  | cons symbol entry below rest =>
      cons symbol ⟨change (above ++ [symbol]) entry, entry.terminal⟩
        (below.relabel change (above ++ [symbol])) (rest.relabel change above)

/--
One set of branches laid over another. Siblings of the first come first and in order; where both
have a symbol, the tokens are resolved and what is below is merged; what only the second has
follows in its order.
-/
def merge (resolve : Resolver α) : Branches α → Branches α → Branches α
  | nil, other => other
  | cons symbol entry below rest, other =>
      match other.lookup symbol with
      | none => cons symbol entry below (merge resolve rest other)
      | some (otherEntry, otherBelow) =>
          let inner := resolve.beneath [symbol] [symbol]
          let token := inner ⟨entry, [], below⟩ ⟨otherEntry, [], otherBelow⟩
          cons symbol ⟨token, entry.terminal.either otherEntry.terminal⟩
            (merge inner below otherBelow) (merge resolve rest (other.erase symbol))

def walk (above : Path) : Branches α → List (Path × Entry α)
  | nil => []
  | cons symbol entry below rest =>
      (above ++ [symbol], entry) :: (below.walk (above ++ [symbol]) ++ rest.walk above)

def size : Branches α → Nat
  | nil => 0
  | cons _ _ below rest => 1 + below.size + rest.size

def reach : Branches α → Path → Path
  | nil, _ => []
  | cons _ _ _ _, [] => []
  | cons head _ below rest, symbol :: path =>
      if head = symbol then symbol :: below.reach path else rest.reach (symbol :: path)

/-! ### Siblings stay distinct -/

instance decidableDistinct : (branches : Branches α) → Decidable branches.Distinct
  | nil => isTrue trivial
  | cons symbol _ below rest =>
      have : Decidable below.Distinct := decidableDistinct below
      have : Decidable rest.Distinct := decidableDistinct rest
      inferInstanceAs (Decidable (symbol ∉ rest.keys ∧ below.Distinct ∧ rest.Distinct))

theorem Distinct.of_lookup {branches below : Branches α} {entry : Entry α} {symbol : Symbol}
    (distinct : branches.Distinct) (found : branches.lookup symbol = some (entry, below)) :
    below.Distinct := by
  induction branches with
  | nil => simp [lookup] at found
  | cons head headEntry headBelow rest belowHyp restHyp =>
      obtain ⟨_, belowDistinct, restDistinct⟩ := distinct
      rw [lookup] at found
      split at found
      · simp only [Option.some.injEq, Prod.mk.injEq] at found
        exact found.2 ▸ belowDistinct
      · exact restHyp restDistinct found

@[simp] theorem keys_snoc (siblings below : Branches α) (symbol : Symbol) (entry : Entry α) :
    (siblings.snoc symbol entry below).keys = siblings.keys ++ [symbol] := by
  induction siblings with
  | nil => rfl
  | cons head headEntry headBelow rest _ ih => simp [snoc, keys, ih]

theorem Distinct.snoc {siblings below : Branches α} {symbol : Symbol} {entry : Entry α}
    (distinct : siblings.Distinct) (fresh : symbol ∉ siblings.keys)
    (belowDistinct : below.Distinct) : (siblings.snoc symbol entry below).Distinct := by
  induction siblings with
  | nil => simpa [Branches.snoc, Distinct, keys] using belowDistinct
  | cons head headEntry headBelow rest _ ih =>
      obtain ⟨headFresh, headDistinct, restDistinct⟩ := distinct
      simp only [keys, List.mem_cons, not_or] at fresh
      refine ⟨?_, headDistinct, ih restDistinct fresh.2⟩
      simpa [headFresh] using Ne.symm fresh.1

theorem Distinct.add {siblings below : Branches α} {symbol : Symbol} {entry : Entry α}
    (distinct : siblings.Distinct) (belowDistinct : below.Distinct) :
    (siblings.add symbol entry below).Distinct := by
  unfold Branches.add
  split
  · exact distinct
  · next fresh => exact distinct.snoc fresh belowDistinct

theorem keys_erase_subset {branches : Branches α} {symbol key : Symbol}
    (member : key ∈ (branches.erase symbol).keys) : key ∈ branches.keys := by
  induction branches with
  | nil => exact member
  | cons head entry below rest _ ih =>
      rw [erase] at member
      split at member
      · exact List.mem_cons_of_mem _ member
      · rcases List.mem_cons.1 member with rfl | later
        · exact List.mem_cons_self ..
        · exact List.mem_cons_of_mem _ (ih later)

theorem Distinct.erase {branches : Branches α} (distinct : branches.Distinct) (symbol : Symbol) :
    (branches.erase symbol).Distinct := by
  induction branches with
  | nil => trivial
  | cons head entry below rest _ ih =>
      obtain ⟨fresh, belowDistinct, restDistinct⟩ := distinct
      rw [Branches.erase]
      split
      · exact restDistinct
      · exact ⟨fun member => fresh (keys_erase_subset member), belowDistinct, ih restDistinct⟩

theorem not_mem_keys_erase {branches : Branches α} (distinct : branches.Distinct)
    (symbol : Symbol) : symbol ∉ (branches.erase symbol).keys := by
  induction branches with
  | nil => simp [Branches.erase, keys]
  | cons head entry below rest _ ih =>
      obtain ⟨fresh, _, restDistinct⟩ := distinct
      rw [Branches.erase]
      split
      · next same => exact same ▸ fresh
      · next other => simpa [keys, Ne.symm other] using ih restDistinct

theorem keys_filterKeys (keep : Symbol → Bool) (branches : Branches α) :
    (branches.filterKeys keep).keys = branches.keys.filter keep := by
  induction branches with
  | nil => rfl
  | cons symbol entry below rest _ ih =>
      rw [filterKeys]
      split <;> simp_all [keys]

theorem Distinct.filterKeys {branches : Branches α} (distinct : branches.Distinct)
    (keep : Symbol → Bool) : (branches.filterKeys keep).Distinct := by
  induction branches with
  | nil => trivial
  | cons symbol entry below rest _ ih =>
      obtain ⟨fresh, belowDistinct, restDistinct⟩ := distinct
      rw [Branches.filterKeys]
      split
      · refine ⟨?_, belowDistinct, ih restDistinct⟩
        simp [keys_filterKeys, fresh]
      · exact ih restDistinct

theorem distinct_chain (blank token : α) (path : Path) : (chain blank token path).Distinct := by
  induction path with
  | nil => trivial
  | cons symbol path ih =>
      cases path with
      | nil => simp [chain, Distinct, keys]
      | cons next path => simpa [chain, Distinct, keys] using ih

theorem keys_chain (blank token : α) (path : Path) :
    (chain blank token path).keys = path.head?.toList := by
  match path with
  | [] => rfl
  | [_] => rfl
  | _ :: _ :: _ => rfl

theorem mem_keys_insert {blank token : α} {branches : Branches α} {path : Path} {key : Symbol}
    (member : key ∈ (branches.insert blank token path).keys) :
    key ∈ branches.keys ∨ path.head? = some key := by
  induction branches with
  | nil => simpa [insert, keys_chain, keys] using member
  | cons head entry below rest _ ih =>
      match path with
      | [] => exact Or.inl member
      | [symbol] | symbol :: _ :: _ =>
          rw [insert] at member
          split at member
          · exact Or.inl member
          · rcases List.mem_cons.1 member with rfl | later
            · exact Or.inl (List.mem_cons_self ..)
            · exact (ih later).imp_left (List.mem_cons_of_mem _)

theorem Distinct.insert {branches : Branches α} (distinct : branches.Distinct) (blank token : α)
    (path : Path) : (branches.insert blank token path).Distinct := by
  induction branches generalizing path with
  | nil => exact distinct_chain blank token path
  | cons head entry below rest belowHyp restHyp =>
      obtain ⟨fresh, belowDistinct, restDistinct⟩ := distinct
      have freshAfter : ∀ symbol path, head ≠ symbol →
          head ∉ (rest.insert blank token (symbol :: path)).keys := by
        intro symbol path other member
        rcases mem_keys_insert member with old | new
        · exact fresh old
        · simp only [List.head?_cons, Option.some.injEq] at new
          exact other new.symm
      match path with
      | [] => exact ⟨fresh, belowDistinct, restDistinct⟩
      | [symbol] =>
          rw [Branches.insert]
          split
          · exact ⟨fresh, belowDistinct, restDistinct⟩
          · next other => exact ⟨freshAfter _ _ other, belowDistinct, restHyp restDistinct _⟩
      | symbol :: next :: path =>
          rw [Branches.insert]
          split
          · exact ⟨fresh, belowHyp belowDistinct _, restDistinct⟩
          · next other => exact ⟨freshAfter _ _ other, belowDistinct, restHyp restDistinct _⟩

theorem keys_plant_cons (branches child : Branches α) (symbol step : Symbol) (entry : Entry α)
    (path : Path) : (branches.plant (step :: path) symbol entry child).keys = branches.keys := by
  induction branches with
  | nil => rfl
  | cons head headEntry below rest _ ih =>
      rw [plant]
      split
      · rfl
      · simp [keys, ih]

theorem Distinct.plant {branches child : Branches α} (distinct : branches.Distinct)
    (childDistinct : child.Distinct) (path : Path) (symbol : Symbol) (entry : Entry α) :
    (branches.plant path symbol entry child).Distinct := by
  induction branches generalizing path with
  | nil =>
      cases path with
      | nil => exact distinct.add childDistinct
      | cons step path => trivial
  | cons head headEntry below rest belowHyp restHyp =>
      cases path with
      | nil => exact distinct.add childDistinct
      | cons step path =>
          obtain ⟨fresh, belowDistinct, restDistinct⟩ := distinct
          rw [Branches.plant]
          split
          · exact ⟨fresh, belowHyp belowDistinct _, restDistinct⟩
          · exact ⟨by rwa [keys_plant_cons], belowDistinct, restHyp restDistinct _⟩

@[simp] theorem keys_relabel (change : Path → Entry α → β) (above : Path)
    (branches : Branches α) : (branches.relabel change above).keys = branches.keys := by
  induction branches with
  | nil => rfl
  | cons symbol entry below rest _ ih => simp [relabel, keys, ih]

theorem Distinct.relabel {branches : Branches α} (distinct : branches.Distinct)
    (change : Path → Entry α → β) (above : Path) : (branches.relabel change above).Distinct := by
  induction branches generalizing above with
  | nil => trivial
  | cons symbol entry below rest belowHyp restHyp =>
      obtain ⟨fresh, belowDistinct, restDistinct⟩ := distinct
      exact ⟨by simpa using fresh, belowHyp belowDistinct _, restHyp restDistinct _⟩

theorem lookup_eq_none_iff {branches : Branches α} {symbol : Symbol} :
    branches.lookup symbol = none ↔ symbol ∉ branches.keys := by
  induction branches with
  | nil => simp [lookup, keys]
  | cons head entry below rest _ ih =>
      rw [lookup]
      split
      · next same => simp [keys, same]
      · next other => simpa [keys, Ne.symm other] using ih

theorem mem_keys_merge {resolve : Resolver α} {first second : Branches α} {key : Symbol}
    (member : key ∈ (first.merge resolve second).keys) :
    key ∈ first.keys ∨ key ∈ second.keys := by
  induction first generalizing resolve second with
  | nil => exact Or.inr member
  | cons symbol entry below rest _ ih =>
      rw [merge] at member
      split at member
      all_goals
        rcases List.mem_cons.1 member with rfl | later
        · exact Or.inl (List.mem_cons_self ..)
      · exact (ih later).imp_left (List.mem_cons_of_mem _)
      · exact (ih later).imp (List.mem_cons_of_mem _) keys_erase_subset

theorem Distinct.merge {first second : Branches α} (firstDistinct : first.Distinct)
    (secondDistinct : second.Distinct) (resolve : Resolver α) :
    (first.merge resolve second).Distinct := by
  induction first generalizing resolve second with
  | nil => exact secondDistinct
  | cons symbol entry below rest belowHyp restHyp =>
      obtain ⟨fresh, belowDistinct, restDistinct⟩ := firstDistinct
      rw [Branches.merge]
      split
      · next absent =>
          refine ⟨fun member => ?_, belowDistinct, restHyp restDistinct secondDistinct _⟩
          rcases mem_keys_merge member with old | new
          · exact fresh old
          · exact lookup_eq_none_iff.1 absent new
      · next otherEntry otherBelow found =>
          refine ⟨fun member => ?_, belowHyp belowDistinct (secondDistinct.of_lookup found) _,
            restHyp restDistinct (secondDistinct.erase _) _⟩
          rcases mem_keys_merge member with old | new
          · exact fresh old
          · exact not_mem_keys_erase secondDistinct _ new

end Branches
end Honji
