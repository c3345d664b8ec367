import Honji.Proofs.Trie.Run

/-!
Two computations that build tries side by side. They keep a relation if, wherever both return, tries
that were related before are related afterwards.
-/

namespace Honji
namespace Build
variable {α β γ δ ι : Type}

/-- On tries that are related, both computations leave related tries if both return. -/
def Joint (kept : Trie Text → Trie Text → Prop) (related : α → β → Prop) (first : Build α)
    (second : Build β) : Prop :=
  ∀ ⦃trie other built otherBuilt : Trie Text⦄ ⦃one : α⦄ ⦃two : β⦄, kept trie other →
    Steps.run first trie = (.ok one, built) → Steps.run second other = (.ok two, otherBuilt) →
      related one two ∧ kept built otherBuilt

abbrev Joints (kept : Trie Text → Trie Text → Prop) (first : Build α) (second : Build β) : Prop :=
  Joint kept (fun _ _ => True) first second

namespace Joint
variable {kept : Trie Text → Trie Text → Prop} {related : α → β → Prop} {result : γ → δ → Prop}

theorem pure {one : α} {two : β} (both : related one two) :
    Joint kept related (pure one) (pure two) := by
  rintro trie other built otherBuilt _ _ before ⟨⟩ ⟨⟩
  exact ⟨both, before⟩

theorem bind {first : Build α} {second : Build β} {next : α → Build γ} {other : β → Build δ}
    (joint : Joint kept related first second)
    (goesOn : ∀ one two, related one two → Joint kept result (next one) (other two)) :
    Joint kept result (first >>= next) (second >>= other) := by
  intro trie otherTrie built otherBuilt three four before ran otherRan
  obtain ⟨one, between, ran, then_⟩ := Steps.run_bind_eq_ok.1 ran
  obtain ⟨two, otherBetween, otherRan, otherThen⟩ := Steps.run_bind_eq_ok.1 otherRan
  obtain ⟨both, before⟩ := joint before ran otherRan
  exact goesOn one two both before then_ otherThen

theorem discard {first : Build α} {second : Build β} (joint : Joint kept related first second) :
    Joints kept (discard first) (discard second) :=
  joint.bind fun _ _ _ => pure trivial

theorem lift (first : Except Failure α) (second : Except Failure β) :
    Joints kept (liftM first) (liftM second) := by
  intro trie other built otherBuilt one two before ran otherRan
  simp only [Steps.run_lift, Prod.mk.injEq] at ran otherRan
  exact ⟨trivial, ran.2 ▸ otherRan.2 ▸ before⟩

theorem throw_left (failure : Failure) (second : Build β) :
    Joint kept related (throw failure) second := by
  rintro trie other built otherBuilt one two before ⟨⟩

theorem throw_right (failure : Failure) (first : Build α) :
    Joint kept related first (throw failure) := by
  rintro trie other built otherBuilt one two before ran ⟨⟩

theorem get : Joint kept kept get get := by
  rintro trie other built otherBuilt _ _ before ⟨⟩ ⟨⟩
  exact ⟨before, before⟩

theorem root {same : Node Text → Node Text → Prop}
    (roots : ∀ trie other, kept trie other → same trie.root other.root) :
    Joint kept same root root := by
  rintro trie other built otherBuilt _ _ before ⟨⟩ ⟨⟩
  exact ⟨roots trie other before, before⟩

theorem change {step other : Trie Text → Except Failure (Trie Text)}
    (changed : ∀ trie otherTrie built otherBuilt, kept trie otherTrie →
      step trie = .ok built → other otherTrie = .ok otherBuilt → kept built otherBuilt) :
    Joints kept (Build.change step) (Build.change other) := by
  intro trie otherTrie built otherBuilt one two before ran otherRan
  exact ⟨trivial, changed _ _ _ _ before (run_change_eq_ok.1 ran) (run_change_eq_ok.1 otherRan)⟩

theorem forM {first second : ι → Build Unit} {items : List ι}
    (each : ∀ item ∈ items, Joints kept (first item) (second item)) :
    Joints kept (items.forM first) (items.forM second) := by
  induction items with
  | nil => exact pure trivial
  | cons item items ih =>
      obtain ⟨here, rest⟩ := List.forall_mem_cons.1 each
      exact here.bind fun _ _ _ => ih rest

theorem mapM {first second : ι → Build α} {items : List ι}
    (each : ∀ item ∈ items, Joint kept (· = ·) (first item) (second item)) :
    Joint kept (· = ·) (items.mapM first) (items.mapM second) := by
  induction items with
  | nil => exact pure rfl
  | cons item items ih =>
      obtain ⟨here, rest⟩ := List.forall_mem_cons.1 each
      rw [List.mapM_cons, List.mapM_cons]
      exact here.bind fun one two same => (ih rest).bind fun rest otherRest sameRest =>
        pure (by rw [same, sameRest])

theorem insertNew {path : Path} {token other : Text}
    (inserted : Joints kept (insert path token) (insert path other)) :
    Joints kept (insertNew path token) (insertNew path other) := by
  unfold Build.insertNew
  apply bind get
  intro trie otherTrie _
  split <;> split
  · exact throw_left ..
  · exact throw_left ..
  · exact throw_right ..
  · exact inserted

end Joint
end Build
end Honji
