/-!
Tables: keys with values, each key once, in the order in which the keys came.
-/

namespace Honji

structure Table (κ ν : Type) where
  entries : List (κ × ν)
  distinct : (entries.map Prod.fst).Nodup

namespace Table
variable {κ ν μ : Type}

def empty : Table κ ν :=
  ⟨[], by simp⟩

def keys (table : Table κ ν) : List κ :=
  table.entries.map Prod.fst

section
variable [DecidableEq κ]

/-- Sets the value of a key: a new key comes last, a known key keeps its place. -/
def putIn (key : κ) (value : ν) : List (κ × ν) → List (κ × ν)
  | [] => [(key, value)]
  | (known, old) :: rest =>
      if known = key then (known, value) :: rest else (known, old) :: putIn key value rest

theorem fst_putIn (key : κ) (value : ν) (entries : List (κ × ν)) :
    (putIn key value entries).map Prod.fst =
      if key ∈ entries.map Prod.fst then entries.map Prod.fst
      else entries.map Prod.fst ++ [key] := by
  induction entries with
  | nil => rfl
  | cons entry rest ih =>
      by_cases same : entry.1 = key
      · simp [putIn, same]
      · have other : key ≠ entry.1 := Ne.symm same
        by_cases later : key ∈ rest.map Prod.fst <;>
          simp_all [putIn]

theorem nodup_putIn {entries : List (κ × ν)} (distinct : (entries.map Prod.fst).Nodup)
    (key : κ) (value : ν) : ((putIn key value entries).map Prod.fst).Nodup := by
  rw [fst_putIn]
  split
  · exact distinct
  · next fresh =>
      refine List.nodup_append.2 ⟨distinct, by simp, fun one member other single => ?_⟩
      simp only [List.mem_singleton] at single
      exact fun same => fresh (single ▸ same ▸ member)

def put (table : Table κ ν) (key : κ) (value : ν) : Table κ ν :=
  ⟨putIn key value table.entries, nodup_putIn table.distinct key value⟩

def putAll (table : Table κ ν) (pairs : List (κ × ν)) : Table κ ν :=
  pairs.foldl (fun table pair => table.put pair.1 pair.2) table

/-- The table of a list of pairs: of several values for a key the last counts. -/
def ofPairs (pairs : List (κ × ν)) : Table κ ν :=
  empty.putAll pairs

def get? (table : Table κ ν) (key : κ) : Option ν :=
  (table.entries.find? (·.1 == key)).map Prod.snd

end

def mapValues (table : Table κ ν) (change : ν → μ) : Table κ μ :=
  ⟨table.entries.map fun entry => (entry.1, change entry.2), by
    simpa [List.map_map, Function.comp_def] using table.distinct⟩

end Table
end Honji
