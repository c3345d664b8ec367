import Honji.Proofs.Trie.Lookup
import Honji.Proofs.Trie.Run

/-!
Tries described by the rules they hold. A trie holds a list of rules if what stands at the paths
below its root are these rules and nothing else. A step that adds a rule whose path is new extends
the list, and so a trie built in many steps is described by all rules that were added.
-/

namespace Honji

abbrev Rule := Path × Text

def Rule.Fresh (known added : List Rule) : Prop :=
  (added.map Prod.fst).Nodup ∧ ∀ path ∈ added.map Prod.fst, path ∉ known.map Prod.fst

theorem Rule.fresh_cons {known added : List Rule} {rule : Rule} :
    Rule.Fresh known (rule :: added) ↔
      rule.1 ∉ known.map Prod.fst ∧ Rule.Fresh (known ++ [rule]) added := by
  have unlike : rule.1 ∉ added.map Prod.fst ↔ ∀ path ∈ added.map Prod.fst, ¬ path = rule.1 :=
    ⟨fun absent path member same => absent (same ▸ member), fun all member => all _ member rfl⟩
  simp only [Fresh, List.map_cons, List.nodup_cons, List.forall_mem_cons, List.map_append,
    List.map_nil, List.mem_append, List.mem_singleton, not_or, forall_and, unlike]
  constructor
  · rintro ⟨⟨other, distinct⟩, fresh, apart⟩
    exact ⟨fresh, distinct, apart, other⟩
  · rintro ⟨fresh, distinct, apart, other⟩
    exact ⟨⟨other, distinct⟩, fresh, apart⟩

theorem Rule.Fresh.of_nodup {known added : List Rule}
    (distinct : ((known ++ added).map Prod.fst).Nodup) : Rule.Fresh known added := by
  rw [List.map_append] at distinct
  obtain ⟨-, inner, apart⟩ := List.nodup_append.1 distinct
  exact ⟨inner, fun path member listed => apart path listed path member rfl⟩

namespace Node

/-- At the paths below a node stand these rules and nothing else. -/
def Holds (node : Node Text) (rules : List Rule) : Prop :=
  ∀ path, path ≠ [] → ∀ entry, node.entryAt? path = some entry ↔
    ∃ token, (path, token) ∈ rules ∧ entry = ⟨token, some true⟩

namespace Holds
variable {node : Node Text} {rules : List Rule}

theorem congr {others : List Rule} (holds : node.Holds rules)
    (same : ∀ rule, rule ∈ rules ↔ rule ∈ others) : node.Holds others := by
  intro path filled entry
  simpa only [same] using holds path filled entry

theorem entryAt?_of_mem (holds : node.Holds rules) {path : Path} {token : Text} (filled : path ≠ [])
    (member : (path, token) ∈ rules) : node.entryAt? path = some ⟨token, some true⟩ :=
  (holds path filled _).2 ⟨token, member, rfl⟩

theorem exists_of_entryAt? (holds : node.Holds rules) {path : Path} {entry : Entry Text}
    (filled : path ≠ []) (found : node.entryAt? path = some entry) :
    ∃ token, (path, token) ∈ rules ∧ entry = ⟨token, some true⟩ :=
  (holds path filled entry).1 found

theorem unique (holds : node.Holds rules) {path : Path} {token other : Text} (filled : path ≠ [])
    (member : (path, token) ∈ rules) (also : (path, other) ∈ rules) : token = other := by
  have found := holds.entryAt?_of_mem filled member
  rw [holds.entryAt?_of_mem filled also] at found
  simpa using found.symm

theorem entryAt?_eq_none_iff (holds : node.Holds rules) {path : Path} (filled : path ≠ []) :
    node.entryAt? path = none ↔ path ∉ rules.map Prod.fst := by
  rw [Option.eq_none_iff_forall_ne_some]
  constructor
  · intro absent listed
    obtain ⟨⟨path, token⟩, member, rfl⟩ := List.mem_map.1 listed
    exact absent _ (holds.entryAt?_of_mem filled member)
  · intro absent entry found
    obtain ⟨token, member, -⟩ := holds.exists_of_entryAt? filled found
    exact absent (List.mem_map.2 ⟨_, member, rfl⟩)

theorem child?_eq_none_iff (holds : node.Holds rules) {symbol : Symbol} :
    node.child? symbol = none ↔ [symbol] ∉ rules.map Prod.fst := by
  rw [← holds.entryAt?_eq_none_iff (by simp), entryAt?_cons]
  cases node.child? symbol <;> simp

theorem mem_keys_iff (holds : node.Holds rules) {symbol : Symbol} :
    symbol ∈ node.keys ↔ [symbol] ∈ rules.map Prod.fst := by
  rw [← Decidable.not_iff_not, ← Node.child?_eq_none_iff, holds.child?_eq_none_iff]

theorem mem_keys_of_path (holds : node.Holds rules) {symbol : Symbol} {path : Path}
    (listed : symbol :: path ∈ rules.map Prod.fst) : symbol ∈ node.keys := by
  refine Decidable.byContradiction fun free => ?_
  refine (holds.entryAt?_eq_none_iff (by simp)).1 ?_ listed
  rw [entryAt?_cons, Node.child?_eq_none_iff.2 free, Option.bind_none]

theorem taken_iff (holds : node.Holds rules) {path : Path} {symbol : Symbol} :
    (node.find? path).any (symbol ∈ ·.keys) = true ↔ path ++ [symbol] ∈ rules.map Prod.fst := by
  have absent : node.find? (path ++ [symbol]) = none ↔ path ++ [symbol] ∉ rules.map Prod.fst := by
    rw [← holds.entryAt?_eq_none_iff (by simp), Node.entryAt?_eq_none_iff]
  rw [find?_append] at absent
  rw [← Decidable.not_iff_not, ← absent]
  cases node.find? path with
  | none => simp
  | some found => simp [find?_cons, ← Node.child?_eq_none_iff]

theorem plant_leaf (holds : node.Holds rules) {path : Path} {symbol : Symbol}
    (parent : path = [] ∨ path ∈ rules.map Prod.fst)
    (fresh : path ++ [symbol] ∉ rules.map Prod.fst) (token : Text) :
    (node.plant path symbol (leaf ⟨token, some true⟩)).Holds
      (rules ++ [(path ++ [symbol], token)]) := by
  have there : node.entryAt? path ≠ none := by
    rcases parent with rfl | member
    · simp
    · by_cases filled : path = []
      · simp [filled]
      · rw [Ne, holds.entryAt?_eq_none_iff filled, Classical.not_not]
        exact member
  intro query filled entry
  rw [entryAt?_plant_leaf there ((holds.entryAt?_eq_none_iff (by simp)).2 fresh)]
  by_cases same : path ++ [symbol] = query
  · subst same
    simp only [↓reduceIte, Option.some.injEq, List.mem_append, List.mem_singleton, Prod.mk.injEq,
      true_and]
    constructor
    · rintro rfl
      exact ⟨token, .inr rfl, rfl⟩
    · rintro ⟨other, member | rfl, rfl⟩
      · exact absurd (List.mem_map.2 ⟨_, member, rfl⟩) fresh
      · rfl
  · simpa [same, Ne.symm same] using holds query filled entry

theorem merge {other : Node Text} {others : List Rule} (holds : node.Holds rules)
    (also : other.Holds others)
    (agree : ∀ path token word, (path, token) ∈ rules → (path, word) ∈ others → token = word) :
    (node.merge Resolver.later other).Holds (rules ++ others) := by
  intro path filled entry
  rw [entryAt?_merge Resolver.plain_later]
  have mine := holds path filled entry
  have yours := also path filled entry
  cases first : node.entryAt? path with
  | none =>
      have absent := (holds.entryAt?_eq_none_iff filled).1 first
      rw [first] at mine
      cases second : other.entryAt? path <;> simp_all
  | some found =>
      obtain ⟨token, member, rfl⟩ := holds.exists_of_entryAt? filled first
      cases second : other.entryAt? path with
      | none =>
          have absent := (also.entryAt?_eq_none_iff filled).1 second
          simp_all
      | some laid =>
          obtain ⟨word, listed, rfl⟩ := also.exists_of_entryAt? filled second
          obtain rfl := agree path token word member listed
          constructor
          · rintro ⟨⟩
            exact ⟨token, List.mem_append_left _ member, rfl⟩
          · rintro ⟨said, either, rfl⟩
            have same : said = token := (List.mem_append.1 either).elim
              (fun inside => holds.unique filled inside member)
              fun inside => also.unique filled inside listed
            rw [same]
            rfl

/-! ### Whole trees -/

theorem withEntry (holds : node.Holds rules) (entry : Entry Text) :
    ({ node with entry := entry } : Node Text).Holds rules := by
  intro path filled
  cases path with
  | nil => exact absurd rfl filled
  | cons symbol path => exact holds (symbol :: path) filled

theorem filterKeys (holds : node.Holds rules) (keep : Symbol → Bool) :
    (node.filterKeys keep).Holds (rules.filter fun rule => rule.1.head?.all keep) := by
  intro path filled entry
  cases path with
  | nil => exact absurd rfl filled
  | cons symbol path =>
      have found := holds (symbol :: path) filled entry
      rw [entryAt?_cons] at found
      rw [entryAt?_cons, child?_filterKeys]
      cases kept : keep symbol with
      | false => simp [kept]
      | true => simpa [kept] using found

theorem mapTokens (holds : node.Holds rules) (change : Text → Text) :
    (node.mapTokens change).Holds (rules.map fun rule => (rule.1, change rule.2)) := by
  intro path filled entry
  rw [entryAt?_mapTokens, Option.map_eq_some_iff]
  constructor
  · rintro ⟨before, found, rfl⟩
    obtain ⟨token, member, rfl⟩ := holds.exists_of_entryAt? filled found
    exact ⟨change token, List.mem_map.2 ⟨_, member, rfl⟩, rfl⟩
  · rintro ⟨changed, member, rfl⟩
    obtain ⟨⟨known, token⟩, listed, same⟩ := List.mem_map.1 member
    obtain ⟨rfl, rfl⟩ := Prod.mk.inj same
    exact ⟨_, holds.entryAt?_of_mem filled listed, rfl⟩

theorem plant_nil {child : Node Text} {others : List Rule} {symbol : Symbol}
    (holds : node.Holds rules) (below : child.Holds others)
    (terminal : child.entry.terminal = some true) (longer : ∀ rule ∈ others, rule.1 ≠ [])
    (fresh : [symbol] ∉ rules.map Prod.fst) :
    (node.plant [] symbol child).Holds (rules ++ ([symbol], child.entry.token) ::
      others.map fun rule => (symbol :: rule.1, rule.2)) := by
  have free : node.child? symbol = none := holds.child?_eq_none_iff.2 fresh
  intro path filled entry
  cases path with
  | nil => exact absurd rfl filled
  | cons key path =>
      have found := holds (key :: path) filled entry
      rw [entryAt?_cons] at found
      rw [entryAt?_cons, child?_plant_nil free]
      by_cases same : symbol = key
      · subst same
        have absent {token : Text} : (symbol :: path, token) ∉ rules := by
          intro member
          have there := holds.entryAt?_of_mem filled member
          simp [entryAt?_cons, free] at there
        cases path with
        | nil =>
            have other {token : Text} : ([], token) ∉ others := fun member => longer _ member rfl
            have top : child.entry = ⟨child.entry.token, some true⟩ := by
              rw [← terminal]
            simp only [↓reduceIte, Option.bind_some, entryAt?_nil, Option.some.injEq,
              List.mem_append, absent, List.mem_cons, Prod.mk.injEq, true_and, List.mem_map,
              List.cons.injEq, Prod.exists, false_or]
            constructor
            · rintro rfl
              exact ⟨_, .inl rfl, top⟩
            · rintro ⟨token, rfl | ⟨tail, also, member, rfl, rfl⟩, rfl⟩
              · exact top
              · exact absurd member other
        | cons next path =>
            have inner := below (next :: path) (by simp) entry
            simp only [↓reduceIte, Option.bind_some, inner, List.mem_append, absent, List.mem_cons,
              Prod.mk.injEq, List.cons.injEq, reduceCtorEq, and_false, false_and, List.mem_map,
              Prod.exists, true_and, false_or]
            constructor
            · rintro ⟨token, member, rfl⟩
              exact ⟨token, ⟨_, _, member, rfl, rfl⟩, rfl⟩
            · rintro ⟨token, ⟨_, _, member, rfl, rfl⟩, rfl⟩
              exact ⟨_, member, rfl⟩
      · simpa [same, Ne.symm same] using found

end Holds

theorem holds_leaf (entry : Entry Text) : (leaf entry).Holds [] := by
  intro path filled other
  cases path with
  | nil => exact absurd rfl filled
  | cons symbol path => simp [entryAt?_cons]

end Node

structure Trie.Holds (trie : Trie Text) (rules : List Rule) : Prop where
  root : trie.root.Holds rules
  changeable : trie.frozen = false
  caseSensitive : trie.caseInsensitive = false

namespace Build

def Adds (rules added : List Rule) (steps : Build Unit) : Prop :=
  ∀ trie : Trie Text, trie.Holds rules →
    ∃ built, Steps.run steps trie = (.ok (), built) ∧ built.Holds (rules ++ added)

namespace Adds
variable {rules added others : List Rule}

theorem done : Adds rules [] (pure ()) :=
  fun trie holds => ⟨trie, rfl, by simpa using holds⟩

theorem andThen {first second : Build Unit} (adds : Adds rules added first)
    (more : Adds (rules ++ added) others second) :
    Adds rules (added ++ others) (first >>= fun _ => second) := by
  intro trie holds
  obtain ⟨between, ran, holds⟩ := adds trie holds
  obtain ⟨built, ranOn, holds⟩ := more between holds
  refine ⟨built, ?_, by simpa using holds⟩
  rw [Steps.run_bind_of_ok ran, ranOn]

theorem add {path : Path} {symbol : Symbol} (parent : path = [] ∨ path ∈ rules.map Prod.fst)
    (fresh : path ++ [symbol] ∉ rules.map Prod.fst) (token : Text) :
    Adds rules [(path ++ [symbol], token)] (add path symbol token) := by
  intro trie holds
  refine ⟨{ trie with root := trie.root.plant path symbol (.leaf ⟨token, some true⟩) },
    run_change_eq_ok.2 (Trie.attach_eq_ok.2 ⟨holds.changeable, ?_, rfl⟩),
    holds.root.plant_leaf parent fresh token, holds.changeable, holds.caseSensitive⟩
  rw [← Bool.not_eq_true, holds.root.taken_iff]
  exact fresh

theorem read {α : Type} {first : Build α} {next : α → Build Unit} (value : α)
    (reads : ∀ trie : Trie Text, trie.Holds rules → Steps.run first trie = (.ok value, trie))
    (adds : Adds rules added (next value)) : Adds rules added (first >>= next) := by
  intro trie holds
  rw [Steps.run_bind_of_ok (reads trie holds)]
  exact adds trie holds

theorem addEach {ι : Type} (path : ι → Path) (symbol : ι → Symbol) (token : ι → Text)
    (items : List ι) (parents : ∀ item ∈ items, path item = [] ∨ path item ∈ rules.map Prod.fst)
    (fresh : ∀ item ∈ items, path item ++ [symbol item] ∉ rules.map Prod.fst)
    (distinct : (items.map fun item => path item ++ [symbol item]).Nodup) :
    Adds rules (items.map fun item => (path item ++ [symbol item], token item))
      (items.forM fun item => Build.add (path item) (symbol item) (token item)) := by
  induction items generalizing rules with
  | nil => exact done
  | cons item items ih =>
      obtain ⟨unlike, distinct⟩ := List.nodup_cons.1 distinct
      refine (Adds.add (parents item (by simp)) (fresh item (by simp)) _).andThen
        (ih (fun next member => ?_) (fun next member => ?_) distinct)
      · rcases parents next (by simp [member]) with root | listed
        · exact .inl root
        · exact .inr (by simp [listed])
      · have other : path next ++ [symbol next] ≠ path item ++ [symbol item] :=
          fun same => unlike (List.mem_map.2 ⟨next, member, same⟩)
        simp only [List.map_append, List.map_cons, List.map_nil, List.mem_append,
          List.mem_singleton, not_or]
        exact ⟨fresh next (by simp [member]), other⟩

end Adds
end Build
end Honji
