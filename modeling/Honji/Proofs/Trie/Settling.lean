import Honji.Proofs.Trie.Holds

/-!
Steps that return exactly under a condition. Where the condition holds they add certain rules; where
it fails they stop with an error that blames the rule tables, and with no other.
-/

namespace Honji

def Failure.BlamesTables : Failure → Prop
  | .duplicateKey _ _ | .unusableTable _ => True
  | _ => False

namespace Build

def Refuses (rules : List Rule) (steps : Build Unit) : Prop :=
  ∀ trie : Trie Text, trie.Holds rules →
    ∃ failure left, Steps.run steps trie = (.error failure, left) ∧ failure.BlamesTables

/-- A computation that adds rules if a condition holds and refuses the tables otherwise. -/
structure Settles (rules : List Rule) (sound : Prop) (added : List Rule) (steps : Build Unit) :
    Prop where
  adds : sound → Adds rules added steps
  refuses : ¬ sound → Refuses rules steps

theorem Refuses.andThen {rules : List Rule} {first : Build Unit} (refuses : Refuses rules first)
    (next : Unit → Build Unit) : Refuses rules (first >>= next) := by
  intro trie holds
  obtain ⟨failure, left, ran, blames⟩ := refuses trie holds
  exact ⟨failure, left, by rw [Steps.run_bind, ran], blames⟩

namespace Settles
variable {rules added others : List Rule} {sound also : Prop} {steps first next : Build Unit}

theorem congr (settles : Settles rules sound added steps) (same : sound ↔ also) :
    Settles rules also added steps :=
  ⟨fun holds => settles.adds (same.2 holds), fun fails => settles.refuses (mt same.1 fails)⟩

theorem of_adds (adds : Adds rules added steps) : Settles rules True added steps :=
  ⟨fun _ => adds, fun fails => absurd trivial fails⟩

theorem of_throw {failure : Failure} (blames : failure.BlamesTables) :
    Settles rules False added (throw failure) :=
  ⟨False.elim, fun _ trie _ => ⟨failure, trie, rfl, blames⟩⟩

theorem andThen (settles : Settles rules sound added first)
    (goesOn : sound → Settles (rules ++ added) also others next) :
    Settles rules (sound ∧ also) (added ++ others) (first >>= fun _ => next) := by
  refine ⟨fun both => (settles.adds both.1).andThen ((goesOn both.1).adds both.2), fun fails => ?_⟩
  by_cases holds : sound
  · intro trie stands
    obtain ⟨between, ran, standsNext⟩ := settles.adds holds trie stands
    rw [Steps.run_bind_of_ok ran]
    exact (goesOn holds).refuses (fun later => fails ⟨holds, later⟩) between standsNext
  · exact (settles.refuses holds).andThen _

theorem read {α : Type} {first : Build α} {next : α → Build Unit} (value : α)
    (reads : ∀ trie : Trie Text, trie.Holds rules → Steps.run first trie = (.ok value, trie))
    (settles : Settles rules sound added (next value)) :
    Settles rules sound added (first >>= next) := by
  refine ⟨fun holds => Adds.read value reads (settles.adds holds), fun fails trie stands => ?_⟩
  rw [Steps.run_bind_of_ok (reads trie stands)]
  exact settles.refuses fails trie stands

theorem add {path : Path} {symbol : Symbol} (parent : path = [] ∨ path ∈ rules.map Prod.fst)
    (token : Text) : Settles rules (path ++ [symbol] ∉ rules.map Prod.fst)
      [(path ++ [symbol], token)] (Build.add path symbol token) := by
  refine ⟨fun fresh => Adds.add parent fresh token, fun taken trie holds => ?_⟩
  rw [Classical.not_not, ← holds.root.taken_iff] at taken
  exact ⟨.duplicateKey symbol path, trie,
    run_change_of_error (Trie.attach_of_taken holds.changeable taken _), trivial⟩

theorem forM {ι : Type} {step : ι → Build Unit} {ruled : ι → List Rule} (sound : List ι → Prop)
    (shorter : ∀ done rest, sound (done ++ rest) → sound done)
    (each : ∀ done item, sound done →
      Settles (rules ++ done.flatMap ruled) (sound (done ++ [item])) (ruled item) (step item))
    (done items : List ι) (start : sound done) :
    Settles (rules ++ done.flatMap ruled) (sound (done ++ items)) (items.flatMap ruled)
      (items.forM step) := by
  induction items generalizing done with
  | nil =>
      refine (of_adds Adds.done).congr ?_
      simpa using start
  | cons item items ih =>
      have both := (each done item start).andThen fun holds => by
        simpa [List.flatMap_append] using ih (done ++ [item]) holds
      refine both.congr ⟨fun holds => holds.2, fun holds => ⟨shorter _ items ?_, ?_⟩⟩
      · simpa using holds
      · simpa using holds

theorem addEach {ι : Type} (path : ι → Path) (symbol : ι → Symbol) (token : ι → Text)
    (items : List ι) (parents : ∀ item ∈ items, path item = [] ∨ path item ∈ rules.map Prod.fst) :
    Settles rules
      (Rule.Fresh rules (items.map fun item => (path item ++ [symbol item], token item)))
      (items.map fun item => (path item ++ [symbol item], token item))
      (items.forM fun item => Build.add (path item) (symbol item) (token item)) := by
  induction items generalizing rules with
  | nil =>
      exact (of_adds Adds.done).congr (by simp [Rule.Fresh])
  | cons item items ih =>
      obtain ⟨parent, below⟩ := List.forall_mem_cons.1 parents
      refine ((add parent (token item)).andThen fun _ => ih fun next member => ?_).congr ?_
      · rcases below next member with top | listed
        · exact .inl top
        · exact .inr (by simp [listed])
      · rw [List.map_cons, Rule.fresh_cons]

theorem build_cases (settles : Settles rules sound added steps) {trie : Trie Text}
    (holds : trie.Holds rules) :
    (sound ∧ ∃ built, steps.build trie = .ok built ∧ built.Holds (rules ++ added)) ∨
      (¬ sound ∧ ∃ failure, steps.build trie = .error failure ∧ failure.BlamesTables) := by
  by_cases holdsToo : sound
  · obtain ⟨built, ran, stands⟩ := settles.adds holdsToo trie holds
    exact .inl ⟨holdsToo, built, build_eq_ok.2 ran, stands⟩
  · obtain ⟨failure, left, ran, blames⟩ := settles.refuses holdsToo trie holds
    exact .inr ⟨holdsToo, failure, build_eq_error ran, blames⟩

end Settles
end Build
end Honji
