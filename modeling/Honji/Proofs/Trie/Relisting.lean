import Honji.Proofs.Trie.FiniteMap
import Honji.Proofs.Trie.Rules

/-!
A trie made anew of what it lists. The list comes to a node before what is below it and to siblings
in order. While it is read, everything read so far stands in the new tree as it stood in the old
one, and the next node is always the last child of a node that is there.
-/

namespace Honji

theorem Path.ofText_joined {path : Path} (single : ∀ symbol ∈ path, symbol.length = 1) :
    ofText path.joined = path := by
  induction path with
  | nil => rfl
  | cons symbol path ih =>
      obtain ⟨one, rest⟩ := List.forall_mem_cons.1 single
      obtain ⟨character, rfl⟩ := List.length_eq_one_iff.1 one
      exact congrArg ([character] :: ·) (ih rest)

namespace Branches
variable {α : Type}

def ruled : Branches α → Branches α
  | nil => nil
  | cons symbol entry below rest => cons symbol ⟨entry.token, some true⟩ below.ruled rest.ruled

def append : Branches α → Branches α → Branches α
  | nil, others => others
  | cons symbol entry below rest, others => cons symbol entry below (rest.append others)

@[simp] theorem append_nil (siblings : Branches α) : siblings.append nil = siblings := by
  induction siblings with
  | nil => rfl
  | cons symbol entry below rest _ ih => rw [append, ih]

theorem snoc_append (siblings below others : Branches α) (symbol : Symbol) (entry : Entry α) :
    (siblings.snoc symbol entry below).append others =
      siblings.append (cons symbol entry below others) := by
  induction siblings with
  | nil => rfl
  | cons head headEntry headBelow rest _ ih => rw [snoc, append, append, ih]

@[simp] theorem keys_ruled (branches : Branches α) : branches.ruled.keys = branches.keys := by
  induction branches with
  | nil => rfl
  | cons symbol entry below rest _ ih => rw [ruled, keys, keys, ih]

theorem Distinct.ruled {branches : Branches α} (distinct : branches.Distinct) :
    branches.ruled.Distinct := by
  induction branches with
  | nil => trivial
  | cons symbol entry below rest belowHyp restHyp =>
      obtain ⟨fresh, belowDistinct, restDistinct⟩ := distinct
      exact ⟨by rwa [keys_ruled], belowHyp belowDistinct, restHyp restDistinct⟩

theorem lookup_ruled (branches : Branches α) (symbol : Symbol) :
    branches.ruled.lookup symbol = (branches.lookup symbol).map fun found =>
      (⟨found.1.token, some true⟩, found.2.ruled) := by
  induction branches with
  | nil => rfl
  | cons head entry below rest _ ih =>
      rw [ruled, lookup, lookup]
      split
      · rfl
      · exact ih

theorem walk_ruled (branches : Branches α) (above : Path) : branches.ruled.walk above =
    (branches.walk above).map fun stop => (stop.1, ⟨stop.2.token, some true⟩) := by
  induction branches generalizing above with
  | nil => rfl
  | cons symbol entry below rest belowHyp restHyp =>
      simp only [ruled, walk, belowHyp, restHyp, List.map_cons, List.map_append]

theorem walk_append (branches : Branches α) (above more : Path) :
    branches.walk (above ++ more) = (branches.walk more).map fun stop =>
      (above ++ stop.1, stop.2) := by
  induction branches generalizing more with
  | nil => rfl
  | cons symbol entry below rest belowHyp restHyp =>
      simp only [walk, List.append_assoc, belowHyp, restHyp, List.map_cons, List.map_append]

/-! ### Putting in what a walk lists -/

def putAll (blank : α) (known : Branches α) (rules : List (Path × α)) : Branches α :=
  rules.foldl (fun known rule => known.insert blank rule.2 rule.1) known

def listed (above : Path) (branches : Branches α) : List (Path × α) :=
  (branches.walk above).map fun stop => (stop.1, stop.2.token)

section
variable {blank token : α} {known below : Branches α} {symbol : Symbol} {entry : Entry α}
  (fresh : symbol ∉ known.keys)
include fresh

theorem insert_fresh : known.insert blank token [symbol] =
    known.snoc symbol ⟨token, some true⟩ nil := by
  induction known with
  | nil => rfl
  | cons head headEntry headBelow rest _ ih =>
      obtain ⟨other, later⟩ := not_or.1 (mt List.mem_cons.2 fresh)
      rw [insert, if_neg (Ne.symm other), ih later, snoc]

theorem insert_snoc {path : Path} (filled : path ≠ []) :
    (known.snoc symbol entry below).insert blank token (symbol :: path) =
      known.snoc symbol entry (below.insert blank token path) := by
  obtain ⟨next, path, rfl⟩ := List.exists_cons_of_ne_nil filled
  induction known with
  | nil => rw [snoc, insert, if_pos rfl, snoc]
  | cons head headEntry headBelow rest _ ih =>
      obtain ⟨other, later⟩ := not_or.1 (mt List.mem_cons.2 fresh)
      rw [snoc, insert, if_neg (Ne.symm other), ih later, snoc]

theorem putAll_snoc {rules : List (Path × α)} (filled : ∀ rule ∈ rules, rule.1 ≠ []) :
    (known.snoc symbol entry below).putAll blank
        (rules.map fun rule => (symbol :: rule.1, rule.2)) =
      known.snoc symbol entry (below.putAll blank rules) := by
  induction rules generalizing below with
  | nil => rfl
  | cons rule rules ih =>
      obtain ⟨here, rest⟩ := List.forall_mem_cons.1 filled
      have step : (known.snoc symbol entry below).insert blank rule.2 (symbol :: rule.1) =
          known.snoc symbol entry (below.insert blank rule.2 rule.1) := insert_snoc fresh here
      simp only [putAll, List.map_cons, List.foldl_cons, step]
      exact ih rest

end

theorem listed_ne_nil {branches : Branches α} (distinct : branches.Distinct) :
    ∀ rule ∈ branches.listed [], rule.1 ≠ [] := by
  intro rule member
  obtain ⟨⟨path, entry⟩, listed, rfl⟩ := List.mem_map.1 member
  let node : Node α := ⟨entry, branches, distinct⟩
  have walked : (path, entry) ∈ node.below.walk [] := listed
  exact (Node.mem_walk_iff.1 walked).1

theorem putAll_listed (blank : α) {branches known : Branches α} (distinct : branches.Distinct)
    (fresh : ∀ symbol ∈ branches.keys, symbol ∉ known.keys) :
    known.putAll blank (branches.listed []) = known.append branches.ruled := by
  induction branches generalizing known with
  | nil => exact (append_nil known).symm
  | cons symbol entry below rest belowHyp restHyp =>
      obtain ⟨apart, belowDistinct, restDistinct⟩ := distinct
      obtain ⟨here, later⟩ := List.forall_mem_cons.1 fresh
      have under : below.listed [symbol] =
          (below.listed []).map fun rule => (symbol :: rule.1, rule.2) := by
        have shifted := walk_append below [symbol] []
        rw [List.append_nil] at shifted
        simp [listed, shifted, Function.comp_def]
      have behind : ∀ key ∈ rest.keys,
          key ∉ (known.snoc symbol ⟨entry.token, some true⟩ below.ruled).keys := by
        intro key member
        rw [keys_snoc, List.mem_append, List.mem_singleton, not_or]
        exact ⟨later key member, fun same => apart (same ▸ member)⟩
      calc known.putAll blank ((cons symbol entry below rest).listed [])
        _ = ((known.insert blank entry.token [symbol]).putAll blank
              (below.listed [symbol])).putAll blank (rest.listed []) := by
            simp [putAll, listed, walk]
        _ = (known.snoc symbol ⟨entry.token, some true⟩ below.ruled).putAll blank
              (rest.listed []) := by
            rw [insert_fresh here, under, putAll_snoc here (listed_ne_nil belowDistinct),
              belowHyp belowDistinct (by simp [keys])]
            rfl
        _ = known.append (cons symbol entry below rest).ruled := by
            rw [restHyp restDistinct behind, snoc_append, ruled]

end Branches

namespace Node
variable {α : Type}

def ruled (node : Node α) (top : Entry α) : Node α :=
  ⟨top, node.below.ruled, node.distinct.ruled⟩

theorem child?_ruled (node : Node α) (top : Entry α) (symbol : Symbol) :
    (node.ruled top).child? symbol =
      (node.child? symbol).map fun child => child.ruled ⟨child.entry.token, some true⟩ := by
  refine child?_eq_of_lookup ?_
  rw [ruled, Branches.lookup_ruled, lookup_below, Option.map_map, Option.map_map]
  rfl

theorem keysAt_ruled (node : Node α) (top : Entry α) (path : Path) :
    (node.ruled top).keysAt path = node.keysAt path := by
  induction path generalizing node top with
  | nil => exact Branches.keys_ruled node.below
  | cons symbol path ih =>
      rw [keysAt_cons, keysAt_cons, child?_ruled]
      cases node.child? symbol with
      | none => rfl
      | some child => exact ih child _

theorem entryAt?_ruled (node : Node α) (top : Entry α) {path : Path} (filled : path ≠ []) :
    (node.ruled top).entryAt? path =
      (node.entryAt? path).map fun entry => ⟨entry.token, some true⟩ := by
  induction path generalizing node top with
  | nil => exact absurd rfl filled
  | cons symbol path ih =>
      rw [entryAt?_cons, entryAt?_cons, child?_ruled]
      cases node.child? symbol with
      | none => rfl
      | some child =>
          cases path with
          | nil => rfl
          | cons next path => exact ih child _ (List.cons_ne_nil _ _)

end Node

namespace Trie
variable {α : Type}

theorem insertAll_eq_putAll {trie : Trie α} (changeable : trie.frozen = false)
    {rules : List (Path × α)} (filled : ∀ rule ∈ rules, rule.1 ≠ []) :
    ∃ built, trie.insertAll rules = .ok built ∧ built.caseInsensitive = trie.caseInsensitive ∧
      built.frozen = false ∧
      built.root.below = trie.root.below.putAll trie.placeholder (trie.normalized rules) := by
  induction rules generalizing trie with
  | nil => exact ⟨trie, rfl, rfl, changeable, rfl⟩
  | cons rule rules ih =>
      obtain ⟨here, rest⟩ := List.forall_mem_cons.1 filled
      let next : Trie α := { trie with
        root := trie.root.insert trie.placeholder rule.2 (rule.1.map trie.normalize) }
      have put : trie.insert rule.1 rule.2 = .ok next := insert_of_ne_nil changeable here rule.2
      have loose : next.frozen = false := changeable
      obtain ⟨built, puts, manner, still, below⟩ := ih loose rest
      refine ⟨built, ?_, manner, still, below⟩
      rw [insertAll, List.foldlM_cons, put]
      exact puts

/-- Every symbol in a trie is a single character, and the trie stores it as it looks it up. -/
def Lettered (trie : Trie α) : Prop :=
  ∀ path ∈ trie.root.paths, ∀ symbol ∈ path,
    symbol.length = 1 ∧ trie.normalize symbol = symbol

instance (trie : Trie α) : Decidable trie.Lettered :=
  inferInstanceAs (Decidable (∀ path ∈ trie.root.paths, ∀ symbol ∈ path, _))

namespace Lettered
variable {trie : Trie α} (lettered : trie.Lettered) {path : Path} {entry : Entry α}
  (walked : (path, entry) ∈ trie.root.below.walk [])
include lettered walked

theorem ofText_joined : Path.ofText path.joined = path :=
  Path.ofText_joined fun symbol member =>
    (lettered path (List.mem_cons_of_mem _ (List.mem_map_of_mem walked)) symbol member).1

theorem map_normalize : path.map trie.normalize = path := by
  conv_rhs => rw [← List.map_id path]
  exact List.map_congr_left fun symbol member =>
    (lettered path (List.mem_cons_of_mem _ (List.mem_map_of_mem walked)) symbol member).2

end Lettered

def relisting (trie : Trie α) : Mapping α :=
  .sequence (trie.items.map fun item => (.text item.1, item.2))

/--
A trie that has the symbols of another one in the same order at each node, and the same tokens, all
of them put there by rules.
-/
structure Relists (trie rebuilt : Trie α) : Prop where
  caseInsensitive : rebuilt.caseInsensitive = trie.caseInsensitive
  changeable : rebuilt.frozen = false
  items : rebuilt.items = trie.items
  keysAt : ∀ path, rebuilt.root.keysAt path = trie.root.keysAt path
  entryAt? : ∀ path, path ≠ [] → rebuilt.root.entryAt? path =
    (trie.root.entryAt? path).map fun entry => ⟨entry.token, some true⟩

theorem Lettered.spelled {trie : Trie α} (lettered : trie.Lettered) :
    trie.items.map (fun item => (Path.ofText item.1, item.2)) = trie.root.below.listed [] := by
  rw [items_eq, List.map_map, Branches.listed]
  exact List.map_congr_left fun stop walked => by simp [lettered.ofText_joined walked]

theorem Lettered.normalized_listed {trie : Trie α} (lettered : trie.Lettered) :
    trie.normalized (trie.root.below.listed []) = trie.root.below.listed [] := by
  rw [normalized, Branches.listed, List.map_map]
  exact List.map_congr_left fun stop walked => by simp [lettered.map_normalize walked]

theorem Lettered.exists_relisted [Token α] {trie : Trie α} (lettered : trie.Lettered) :
    ∃ rebuilt top, trie.relisting.toTrie trie.caseInsensitive = .ok rebuilt ∧
      rebuilt.root = trie.root.ruled top ∧ rebuilt.caseInsensitive = trie.caseInsensitive ∧
      rebuilt.frozen = false := by
  let blank : Trie α := .empty trie.caseInsensitive Token.blank
  have loose : blank.frozen = false := rfl
  obtain ⟨rebuilt, built, manner, changeable, below⟩ :=
    insertAll_eq_putAll loose (Branches.listed_ne_nil trie.root.distinct)
  have rules : trie.relisting.toTrie trie.caseInsensitive =
      blank.insertAll (trie.root.below.listed []) := by
    rw [← lettered.spelled, relisting, Mapping.toTrie, List.map_map]
    rfl
  have written : blank.normalized (trie.root.below.listed []) = trie.root.below.listed [] :=
    lettered.normalized_listed
  have tree : rebuilt.root.below = trie.root.below.ruled := by
    rw [below, written]
    exact Branches.putAll_listed _ trie.root.distinct (fun _ _ => List.not_mem_nil)
  refine ⟨rebuilt, rebuilt.root.entry, rules.trans built, ?_, manner, changeable⟩
  obtain ⟨⟨top, branches, distinct⟩, _, _, _⟩ := rebuilt
  subst tree
  rfl

theorem relists_of_ruled {trie rebuilt : Trie α} {top : Entry α}
    (root : rebuilt.root = trie.root.ruled top)
    (manner : rebuilt.caseInsensitive = trie.caseInsensitive)
    (changeable : rebuilt.frozen = false) : Relists trie rebuilt where
  caseInsensitive := manner
  changeable := changeable
  items := by
    have below : rebuilt.root.below = trie.root.below.ruled := by rw [root]; rfl
    rw [items_eq, items_eq, below, Branches.walk_ruled, List.map_map]
    rfl
  keysAt := fun path => by rw [root, Node.keysAt_ruled]
  entryAt? := fun path filled => by rw [root, Node.entryAt?_ruled _ _ filled]

/--
The list of a trie whose symbols are single characters is faithful: the paths on it are distinct,
the trie answers each with the token on the list, and a trie that is made of the list has the same
nodes with the same tokens in the same order, each of them with a rule.
-/
theorem relisting_faithful [Token α] (trie : Trie α) (lettered : trie.Lettered) :
    (trie.items.map Prod.fst).Nodup ∧
      (∀ item ∈ trie.items, ∀ default, trie.get (Path.ofText item.1) default = item.2) ∧
      ∃ rebuilt, trie.relisting.toTrie trie.caseInsensitive = .ok rebuilt ∧
        Relists trie rebuilt := by
  refine ⟨?_, fun item listed default => ?_, ?_⟩
  · have written : trie.items.map Prod.fst =
        ((trie.root.below.walk []).map Prod.fst).map Path.joined := by
      simp [items_eq, Function.comp_def]
    rw [written]
    refine (Node.nodup_walk trie.root.distinct []).map_on fun one member other also same => ?_
    obtain ⟨⟨one, entry⟩, walked, rfl⟩ := List.mem_map.1 member
    obtain ⟨⟨other, otherEntry⟩, walkedToo, rfl⟩ := List.mem_map.1 also
    rw [← lettered.ofText_joined walked, ← lettered.ofText_joined walkedToo]
    exact congrArg Path.ofText same
  · rw [items_eq] at listed
    obtain ⟨⟨path, entry⟩, walked, rfl⟩ := List.mem_map.1 listed
    obtain ⟨filled, stands⟩ := Node.mem_walk_iff.1 walked
    dsimp only
    rw [lettered.ofText_joined walked, get_eq trie filled, lettered.map_normalize walked, stands]
    rfl
  · obtain ⟨rebuilt, top, built, root, manner, changeable⟩ := lettered.exists_relisted
    exact ⟨rebuilt, built, relists_of_ruled root manner changeable⟩

theorem relisting_faithful_dog : ∃ trie : Trie Text,
    Trie.ofRules true [(Path.ofText "INU".toList, "dog".toList),
      (Path.ofText "i".toList, "stomach".toList), (Path.ofText "ika".toList, [])] = .ok trie ∧
    trie.Lettered ∧ (trie.items.map Prod.fst).Nodup ∧
      (∀ item ∈ trie.items, ∀ default, trie.get (Path.ofText item.1) default = item.2) ∧
      ∃ rebuilt, trie.relisting.toTrie trie.caseInsensitive = .ok rebuilt ∧
        Relists trie rebuilt :=
  have lettered : Trie.Lettered _ := by decide +kernel
  ⟨_, rfl, lettered, relisting_faithful _ lettered⟩

end Trie
end Honji
