import Honji.Proofs.Trie.Lookup

/-!
The walk through a tree lists what stands at each path below its root, and each path once.
-/

namespace Honji
namespace Node
variable {α : Type}

theorem child?_cons (top entry : Entry α) (symbol key : Symbol) (below rest : Branches α)
    (distinct : (Branches.cons symbol entry below rest).Distinct) :
    (⟨top, .cons symbol entry below rest, distinct⟩ : Node α).child? key =
      if symbol = key then some ⟨entry, below, distinct.2.1⟩
      else (⟨top, rest, distinct.2.2⟩ : Node α).child? key := by
  refine child?_eq_of_lookup ?_
  rw [Branches.lookup]
  split
  · rfl
  · exact lookup_below ⟨top, rest, distinct.2.2⟩ key

theorem mem_walk_iff_above (top : Entry α) {branches : Branches α} (distinct : branches.Distinct)
    {above path : Path} {entry : Entry α} :
    (path, entry) ∈ branches.walk above ↔
      ∃ rest, rest ≠ [] ∧ path = above ++ rest ∧
        (⟨top, branches, distinct⟩ : Node α).entryAt? rest = some entry := by
  induction branches generalizing top above with
  | nil =>
      simp only [Branches.walk, List.not_mem_nil, false_iff, not_exists, not_and]
      rintro (_ | ⟨symbol, rest⟩) filled -
      · exact absurd rfl filled
      · simp [entryAt?_cons, child?, Branches.lookup]
  | cons symbol head below rest belowHyp restHyp =>
      rw [Branches.walk, List.mem_cons, List.mem_append, belowHyp head distinct.2.1,
        restHyp top distinct.2.2]
      constructor
      · rintro (same | ⟨tail, filled, rfl, found⟩ | ⟨tail, filled, rfl, found⟩)
        · simp only [Prod.mk.injEq] at same
          obtain ⟨rfl, rfl⟩ := same
          exact ⟨[symbol], by simp, rfl, by simp [entryAt?_cons, child?_cons]⟩
        · exact ⟨symbol :: tail, by simp, by simp,
            by simpa [entryAt?_cons, child?_cons] using found⟩
        · refine ⟨tail, filled, rfl, ?_⟩
          cases tail with
          | nil => exact absurd rfl filled
          | cons key tail =>
              have other : symbol ≠ key := by
                rintro rfl
                have absent : (⟨top, rest, distinct.2.2⟩ : Node α).child? symbol = none :=
                  child?_eq_none_iff.2 distinct.1
                simp [entryAt?_cons, absent] at found
              simpa [entryAt?_cons, child?_cons, other] using found
      · rintro ⟨_ | ⟨key, tail⟩, filled, rfl, found⟩
        · exact absurd rfl filled
        · rw [entryAt?_cons, child?_cons] at found
          by_cases same : symbol = key
          · subst same
            cases tail with
            | nil => exact .inl (by simpa using found.symm)
            | cons next tail =>
                exact .inr (.inl ⟨next :: tail, by simp, by simp, by simpa using found⟩)
          · refine .inr (.inr ⟨key :: tail, by simp, rfl, ?_⟩)
            simpa [entryAt?_cons, same] using found

theorem mem_walk_iff {node : Node α} {path : Path} {entry : Entry α} :
    (path, entry) ∈ node.below.walk [] ↔ path ≠ [] ∧ node.entryAt? path = some entry := by
  rw [mem_walk_iff_above node.entry node.distinct]
  constructor
  · rintro ⟨rest, filled, rfl, found⟩
    exact ⟨filled, found⟩
  · rintro ⟨filled, found⟩
    exact ⟨path, filled, rfl, found⟩

theorem nodup_walk {branches : Branches α} (distinct : branches.Distinct) (above : Path) :
    ((branches.walk above).map Prod.fst).Nodup := by
  induction branches generalizing above with
  | nil => simp [Branches.walk]
  | cons symbol entry below rest belowHyp restHyp =>
      have under {path : Path} (member : path ∈ (below.walk (above ++ [symbol])).map Prod.fst) :
          ∃ tail, tail ≠ [] ∧ path = above ++ symbol :: tail := by
        obtain ⟨⟨path, found⟩, listed, rfl⟩ := List.mem_map.1 member
        obtain ⟨tail, filled, rfl, -⟩ := (mem_walk_iff_above entry distinct.2.1).1 listed
        exact ⟨tail, filled, by simp⟩
      have beside {path : Path} (member : path ∈ (rest.walk above).map Prod.fst) :
          ∃ key tail, key ≠ symbol ∧ path = above ++ key :: tail := by
        obtain ⟨⟨path, found⟩, listed, rfl⟩ := List.mem_map.1 member
        obtain ⟨_ | ⟨key, tail⟩, filled, rfl, found⟩ :=
          (mem_walk_iff_above entry distinct.2.2).1 listed
        · exact absurd rfl filled
        · refine ⟨key, tail, ?_, rfl⟩
          rintro rfl
          have absent : (⟨entry, rest, distinct.2.2⟩ : Node α).child? key = none :=
            child?_eq_none_iff.2 distinct.1
          simp [entryAt?_cons, absent] at found
      simp only [Branches.walk, List.map_cons, List.map_append, List.nodup_cons, List.mem_append,
        not_or, List.nodup_append]
      refine ⟨⟨fun member => ?_, fun member => ?_⟩, belowHyp distinct.2.1 _,
        restHyp distinct.2.2 _, fun one inside other outside => ?_⟩
      · obtain ⟨tail, filled, same⟩ := under member
        simp_all
      · obtain ⟨key, tail, other, same⟩ := beside member
        simp_all
      · obtain ⟨tail, -, rfl⟩ := under inside
        obtain ⟨key, tail', other, rfl⟩ := beside outside
        simp [Ne.symm other]

end Node
end Honji
