import Honji.Proofs.Trie.Overlay
import Mathlib.Data.List.Nodup

/-!
The forms in which the same rules can be given. Rules one after another and the table of them make
one layer, and so does a trie that they were put into before, if it stores their symbols as the
trie below it would.
-/

namespace Honji

namespace Table
variable {κ ν : Type} [DecidableEq κ]

theorem putIn_of_notMem {key : κ} {entries : List (κ × ν)} (fresh : key ∉ entries.map Prod.fst)
    (value : ν) : putIn key value entries = entries ++ [(key, value)] := by
  induction entries with
  | nil => rfl
  | cons entry rest ih =>
      obtain ⟨other, later⟩ : key ≠ entry.1 ∧ key ∉ rest.map Prod.fst := by simpa using fresh
      rw [putIn, if_neg (Ne.symm other), ih later]
      rfl

theorem entries_putAll (table : Table κ ν) {pairs : List (κ × ν)}
    (distinct : ((table.entries ++ pairs).map Prod.fst).Nodup) :
    (table.putAll pairs).entries = table.entries ++ pairs := by
  induction pairs generalizing table with
  | nil => simp [putAll]
  | cons pair pairs ih =>
      have fresh : pair.1 ∉ table.entries.map Prod.fst := by
        intro member
        rw [List.map_append, List.nodup_append] at distinct
        exact distinct.2.2 _ member pair.1 (by simp) rfl
      have put : (table.put pair.1 pair.2).entries = table.entries ++ [pair] :=
        putIn_of_notMem fresh pair.2
      have rest := ih (table.put pair.1 pair.2) (by simpa [put] using distinct)
      rw [putAll, List.foldl_cons]
      rw [putAll] at rest
      simp [rest, put]

theorem entries_ofPairs {pairs : List (κ × ν)} (distinct : (pairs.map Prod.fst).Nodup) :
    (ofPairs pairs).entries = pairs :=
  entries_putAll empty distinct

end Table

namespace Trie
variable {α : Type}

def stored (caseInsensitive : Bool) (symbol : Symbol) : Symbol :=
  if caseInsensitive then symbol.lower else symbol

theorem insertAll_agree {first second : Trie α} (root : first.root = second.root)
    (placeholder : first.placeholder = second.placeholder) (changeable : first.frozen = false)
    (otherChangeable : second.frozen = false) {rules : List (Path × α)}
    (filled : ∀ rule ∈ rules, rule.1 ≠ [])
    (folds : ∀ rule ∈ rules, rule.1.map first.normalize = rule.1.map second.normalize) :
    ∃ built, first.insertAll rules = .ok { first with root := built } ∧
      second.insertAll rules = .ok { second with root := built } := by
  induction rules generalizing first second with
  | nil => exact ⟨first.root, rfl, by rw [root]; rfl⟩
  | cons rule rules ih =>
      obtain ⟨here, rest⟩ := List.forall_mem_cons.1 filled
      obtain ⟨same, others⟩ := List.forall_mem_cons.1 folds
      let put (trie : Trie α) : Trie α := { trie with
        root := trie.root.insert trie.placeholder rule.2 (rule.1.map trie.normalize) }
      have both : (put first).root = (put second).root := by
        simp only [put, root, placeholder, same]
      have later : ∃ built, (put first).insertAll rules = .ok { put first with root := built } ∧
          (put second).insertAll rules = .ok { put second with root := built } :=
        ih both placeholder changeable otherChangeable rest others
      obtain ⟨built, one, other⟩ := later
      refine ⟨built, ?_, ?_⟩ <;> rw [insertAll, List.foldlM_cons]
      · rw [insert_of_ne_nil changeable here]
        exact one
      · rw [insert_of_ne_nil otherChangeable here]
        exact other

theorem laid_congr [Token α] (resolve : Resolver α) (base : Trie α) {layer other : Trie α}
    (root : layer.root = other.root) : laid resolve base layer = laid resolve base other := by
  simp only [laid, merged, List.foldl_cons, List.foldl_nil, root]

end Trie

namespace Mapping
variable {α : Type} [Token α]

inductive Listing (pairs : List (Text × α)) : Mapping α → Prop
  | sequence : Listing pairs (.sequence (pairs.map fun pair => (.text pair.1, pair.2)))
  | table : Listing pairs (.table (.ofPairs (pairs.map fun pair => (.text pair.1, pair.2))))

inductive Form (caseInsensitive : Bool) (pairs : List (Text × α)) : Mapping α → Prop
  | listed {mapping : Mapping α} (listing : Listing pairs mapping) :
      Form caseInsensitive pairs mapping
  | trie {mapping : Mapping α} {manner : Bool} {given : Trie α} (listing : Listing pairs mapping)
      (built : mapping.toTrie manner = .ok given)
      (folds : ∀ pair ∈ pairs, ∀ character ∈ pair.1,
        Trie.stored manner [character] = Trie.stored caseInsensitive [character]) :
      Form caseInsensitive pairs (.trie given)

variable {pairs : List (Text × α)} (filled : ∀ pair ∈ pairs, pair.1 ≠ [])
  (distinct : (pairs.map Prod.fst).Nodup)

include distinct in
theorem Listing.toTrie_eq {mapping : Mapping α} (listing : Listing pairs mapping)
    (caseInsensitive : Bool) : mapping.toTrie caseInsensitive =
      Trie.ofRules caseInsensitive (pairs.map fun pair => (Path.ofText pair.1, pair.2)) := by
  cases listing with
  | sequence =>
      rw [toTrie, List.map_map]
      rfl
  | table =>
      have spelled :
          ((pairs.map fun pair => (Spelling.text pair.1, pair.2)).map Prod.fst).Nodup := by
        have injective : Function.Injective Spelling.text := fun _ _ => Spelling.text.inj
        simpa [Function.comp_def] using distinct.map injective
      rw [toTrie, Table.entries_ofPairs spelled, List.map_map]
      rfl

include filled in
theorem exists_root (manner caseInsensitive : Bool)
    (folds : ∀ pair ∈ pairs, ∀ character ∈ pair.1,
      Trie.stored manner [character] = Trie.stored caseInsensitive [character]) :
    ∃ root : Node α,
      Trie.ofRules manner (pairs.map fun pair => (Path.ofText pair.1, pair.2)) =
        .ok ⟨root, manner, Token.blank, false⟩ ∧
      Trie.ofRules caseInsensitive (pairs.map fun pair => (Path.ofText pair.1, pair.2)) =
        .ok ⟨root, caseInsensitive, Token.blank, false⟩ := by
  let first : Trie α := .empty manner Token.blank
  let second : Trie α := .empty caseInsensitive Token.blank
  have same : first.root = second.root := rfl
  refine Trie.insertAll_agree same rfl rfl rfl ?_ ?_
  · exact List.forall_mem_map.2 fun pair member => by simpa [Path.ofText] using filled pair member
  · refine List.forall_mem_map.2 fun pair member => List.map_congr_left ?_
    exact List.forall_mem_map.2 (folds pair member)

include filled distinct

theorem Form.exists_layer (caseInsensitive : Bool) : ∃ root : Node α,
    ∀ mapping, Form caseInsensitive pairs mapping →
      ∃ layer, mapping.toTrie caseInsensitive = .ok layer ∧ layer.root = root := by
  obtain ⟨root, built, -⟩ :=
    exists_root filled caseInsensitive caseInsensitive fun _ _ _ _ => rfl
  refine ⟨root, fun mapping form => ?_⟩
  cases form with
  | listed listing => exact ⟨_, (listing.toTrie_eq distinct caseInsensitive).trans built, rfl⟩
  | @trie mapping manner given listing made folds =>
      obtain ⟨other, first, second⟩ := exists_root filled manner caseInsensitive folds
      rw [built] at second
      rw [listing.toTrie_eq distinct manner, first] at made
      obtain rfl := Except.ok.inj made
      exact ⟨_, rfl, congrArg Trie.root (Except.ok.inj second).symm⟩

end Mapping

theorem Trie.overlay_form {α : Type} [Token α] {pairs : List (Text × α)}
    (filled : ∀ pair ∈ pairs, pair.1 ≠ []) (distinct : (pairs.map Prod.fst).Nodup) (base : Trie α)
    (resolve : Resolver α) : ∃ laid, ∀ mapping, Mapping.Form base.caseInsensitive pairs mapping →
      base.overlay resolve (some mapping) = .ok laid := by
  obtain ⟨root, layers⟩ := Mapping.Form.exists_layer filled distinct base.caseInsensitive
  refine ⟨Trie.laid resolve base ⟨root, base.caseInsensitive, Token.blank, false⟩,
    fun mapping form => ?_⟩
  obtain ⟨layer, given, same⟩ := layers mapping form
  rw [Trie.overlay_some, given]
  exact congrArg Except.ok (Trie.laid_congr resolve base same)

end Honji
