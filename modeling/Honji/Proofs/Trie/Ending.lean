import Honji.Proofs.Trie.Overlay
import Honji.Proofs.Trie.Pointwise
import Honji.Proofs.Trie.Run

/-!
What holds of a trie once the steps that build it have returned. Of steps that fail nothing is said.
-/

namespace Honji
namespace Build
variable {α β ι : Type}

def Ends (before : Trie Text → Prop) (steps : Build α) (after : α → Trie Text → Prop) : Prop :=
  ∀ ⦃trie built : Trie Text⦄ ⦃value : α⦄, before trie →
    Steps.run steps trie = (.ok value, built) → after value built

abbrev Keeps (kept : Trie Text → Prop) (steps : Build α) : Prop :=
  Ends kept steps fun _ => kept

namespace Ends
variable {before : Trie Text → Prop} {after : α → Trie Text → Prop}
  {result : β → Trie Text → Prop}

theorem pure {kept : Trie Text → Prop} (value : α) : Keeps kept (pure value : Build α) := by
  rintro trie built _ holds ⟨⟩
  exact holds

theorem throw (failure : Failure) : Ends before (throw failure : Build α) after := by
  rintro trie built _ _ ⟨⟩

theorem lift_eq {kept : Trie Text → Prop} (outcome : Except Failure α) :
    Ends kept (liftM outcome : Build α) fun value trie => kept trie ∧ outcome = .ok value := by
  intro trie built value holds ran
  rw [Steps.run_lift] at ran
  cases ran
  exact ⟨holds, rfl⟩

theorem bind {first : Build α} {next : α → Build β} (ends : Ends before first after)
    (goesOn : ∀ value, Ends (after value) (next value) result) :
    Ends before (first >>= next) result := by
  intro trie built value holds ran
  obtain ⟨one, between, ran, rest⟩ := Steps.run_bind_eq_ok.1 ran
  exact goesOn one (ends holds ran) rest

theorem discard {kept : Trie Text → Prop} {steps : Build α} (keeps : Keeps kept steps) :
    Keeps kept (discard steps) :=
  keeps.bind fun _ => pure ()

theorem root {kept : Trie Text → Prop} : Keeps kept root := by
  intro trie built value holds ran
  rw [run_root] at ran
  cases ran
  exact holds

theorem root_eq {kept : Trie Text → Prop} :
    Ends kept Build.root fun node trie => kept trie ∧ trie.root = node := by
  intro trie built value holds ran
  rw [run_root] at ran
  cases ran
  exact ⟨holds, rfl⟩

theorem imp {steps : Build α} {result : α → Trie Text → Prop} (ends : Ends before steps after)
    (implied : ∀ value trie, after value trie → result value trie) : Ends before steps result :=
  fun _ _ _ holds ran => implied _ _ (ends holds ran)

theorem change {step : Trie Text → Except Failure (Trie Text)} {after : Unit → Trie Text → Prop}
    (changed : ∀ trie built, before trie → step trie = .ok built → after () built) :
    Ends before (Build.change step) after :=
  fun _ _ _ holds ran => changed _ _ holds (run_change_eq_ok.1 ran)

theorem forM {step : ι → Build Unit} (left : List ι → Trie Text → Prop) (done items : List ι)
    (each : ∀ done item, item ∈ items →
      Ends (left done) (step item) fun _ => left (done ++ [item])) :
    Ends (left done) (items.forM step) fun _ => left (done ++ items) := by
  induction items generalizing done with
  | nil => simpa using pure ()
  | cons item items ih =>
      have rest := ih (done ++ [item]) fun done next member => each done next (by simp [member])
      rw [List.append_assoc, List.singleton_append] at rest
      exact (each done item (by simp)).bind fun _ => rest

theorem mapM_left {step : ι → Build α} (left : List ι → Trie Text → Prop) (items : List ι)
    (each : ∀ done item rest, items = done ++ item :: rest →
      Ends (left done) (step item) fun _ => left (done ++ [item])) :
    Ends (left []) (items.mapM step) fun _ => left items := by
  have rounds (done rest : List ι) (whole : items = done ++ rest) :
      Ends (left done) (rest.mapM step) fun _ => left items := by
    induction rest generalizing done with
    | nil => simpa [whole] using pure []
    | cons item rest ih =>
        rw [List.mapM_cons]
        exact (each done item rest whole).bind fun one =>
          (ih (done ++ [item]) (by simp [whole])).bind fun others => pure (one :: others)
  exact rounds [] items rfl

theorem mapM {kept : Trie Text → Prop} {step : ι → Build α} (items : List ι)
    (each : ∀ item ∈ items, Keeps kept (step item)) : Keeps kept (items.mapM step) :=
  mapM_left (fun _ => kept) items fun _ item _ whole => each item (by simp [whole])

theorem mapM_count {step : ι → Build Nat} (did : ι → List β) (left : List β → Trie Text → Prop)
    (done : List β) (items : List ι)
    (each : ∀ done, ∀ item ∈ items, Ends (left done) (step item) fun count trie =>
      left (done ++ did item) trie ∧ count = (did item).length) :
    Ends (left done) (do
      let counts ← items.mapM step
      return counts.foldl (· + ·) 0) fun count trie =>
        left (done ++ items.flatMap did) trie ∧ count = (items.flatMap did).length := by
  have rounds : Ends (left done) (items.mapM step) fun counts trie =>
      left (done ++ items.flatMap did) trie ∧ counts.sum = (items.flatMap did).length := by
    induction items generalizing done with
    | nil =>
        rintro trie built counts holds ⟨⟩
        exact ⟨by simpa using holds, rfl⟩
    | cons item items ih =>
        have here := each done item List.mem_cons_self
        have rest := ih (done ++ did item) fun done next member =>
          each done next (List.mem_cons_of_mem _ member)
        intro trie built counts holds ran
        rw [List.mapM_cons] at ran
        obtain ⟨count, between, first, ran⟩ := Steps.run_bind_eq_ok.1 ran
        obtain ⟨others, after, further, ⟨⟩⟩ := Steps.run_bind_eq_ok.1 ran
        obtain ⟨still, rfl⟩ := here holds first
        obtain ⟨last, total⟩ := rest still further
        rw [List.flatMap_cons, ← List.append_assoc, List.length_append, List.sum_cons, total]
        exact ⟨last, rfl⟩
  refine rounds.bind fun counts trie built count holds ran => ?_
  obtain ⟨same, rfl⟩ := Prod.mk.inj ran
  obtain rfl := Except.ok.inj same
  rw [← List.sum_eq_foldl]
  exact holds

end Ends
end Build

/-! ### What a single change leaves -/

namespace Trie
variable {α : Type}

theorem entryAt?_of_attach {trie built : Trie α} {path : Path} {symbol : Symbol} {child : Node α}
    (attached : trie.attach path symbol child = .ok built) (query : Path) :
    built.root.entryAt? query = trie.root.entryAt? query ∨
      (path ++ [symbol] <+: query ∧ trie.root.entryAt? query = none ∧
        built.root.entryAt? query = child.entryAt? (query.drop (path.length + 1))) := by
  obtain ⟨-, free, rfl⟩ := attach_eq_ok.1 attached
  cases parent : trie.root.find? path with
  | none => exact .inl (Node.entryAt?_plant_of_none parent symbol child query)
  | some node =>
      rw [parent, Option.any_some, decide_eq_false_iff_not] at free
      have fresh : trie.root.find? (path ++ [symbol]) = none := by
        rw [Node.find?_append, parent, Option.bind_some, Node.find?_cons,
          Node.child?_eq_none_iff.2 free]
        rfl
      rw [Node.entryAt?_plant (by simp [parent]) fresh]
      split
      · next under =>
        obtain ⟨rest, rfl⟩ := under
        refine .inr ⟨⟨rest, rfl⟩, ?_, rfl⟩
        rw [Node.entryAt?_eq_none_iff, Node.find?_append, fresh]
        rfl
      · exact .inl rfl

theorem entryAt?_kept_of_attach {trie built : Trie α} {path query : Path} {symbol : Symbol}
    {child : Node α} {entry : Entry α} (attached : trie.attach path symbol child = .ok built)
    (there : trie.root.entryAt? query = some entry) : built.root.entryAt? query = some entry := by
  rcases entryAt?_of_attach attached query with same | ⟨-, absent, -⟩
  · rw [same, there]
  · rw [absent] at there
    cases there

theorem entryAt?_of_add {trie built : Trie α} {symbol : Symbol} {token : α}
    (added : trie.add [] symbol token = .ok built) :
    built.root.entryAt? [symbol] = some ⟨token, true⟩ := by
  obtain ⟨-, free, rfl⟩ := attach_eq_ok.1 added
  have fresh : trie.root.find? ([] ++ [symbol]) = none := by
    rw [Node.find?_nil, Option.any_some, decide_eq_false_iff_not] at free
    rw [List.nil_append, Node.find?_cons, Node.child?_eq_none_iff.2 free]
    rfl
  rw [Node.entryAt?_plant (by simp) fresh]
  simp [Node.leaf]

end Trie
end Honji
