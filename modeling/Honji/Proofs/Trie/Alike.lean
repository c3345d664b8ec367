import Honji.Proofs.Steps
import Honji.Proofs.Trie.Outline
import Honji.Proofs.Trie.Tiling

/-!
Tries of one outline. They cut every text into the same pieces, whatever their tokens are, and they
stay alike when the same rules are put into both or laid over both.
-/

namespace Honji

namespace Trie
variable {α β : Type}

structure Alike (first : Trie α) (second : Trie β) : Prop where
  outline : first.root.outline = second.root.outline
  caseInsensitive : first.caseInsensitive = second.caseInsensitive
  frozen : first.frozen = second.frozen

namespace Alike
variable {first : Trie α} {second : Trie β}

theorem normalize (alike : Alike first second) : first.normalize = second.normalize := by
  funext symbol
  simp [Trie.normalize, alike.caseInsensitive]

theorem children (alike : Alike first second) (path : Path) :
    (first.root.find? path).map (fun node => (node.keys, node.entry.terminal)) =
      (second.root.find? path).map fun node => (node.keys, node.entry.terminal) := by
  have same : (first.root.find? path).map Node.outline =
      (second.root.find? path).map Node.outline := by
    rw [← Node.find?_outline, ← Node.find?_outline, alike.outline]
  have both := congrArg (Option.map fun node => (node.keys, node.entry.terminal)) same
  simpa [Option.map_map, Function.comp_def, Node.outline, Node.keys] using both

theorem lookups (alike : Alike first second) (path : Path) :
    (first.find? path).map (fun node => (node.keys, node.entry.terminal)) =
      (second.find? path).map fun node => (node.keys, node.entry.terminal) := by
  rw [find?_eq_find?_map, find?_eq_find?_map, alike.normalize]
  exact alike.children _

theorem step? (alike : Alike first second) {node : Node α} {other : Node β}
    (same : node.outline = other.outline) (symbol : Symbol) :
    (first.step? node symbol).map Node.outline = (second.step? other symbol).map Node.outline := by
  rw [Trie.step?, Trie.step?, ← Node.child?_outline, ← Node.child?_outline, same, alike.normalize]

theorem follow (alike : Alike first second) {node : Node α} {other : Node β}
    (same : node.outline = other.outline) (text : Text) :
    (first.follow node text).1 = (second.follow other text).1 ∧
      (first.follow node text).2.outline = (second.follow other text).2.outline := by
  induction text generalizing node other with
  | nil => exact ⟨rfl, same⟩
  | cons character text ih =>
      have led := alike.step? same [character]
      rw [Trie.follow, Trie.follow]
      cases here : first.step? node [character] <;>
        cases there : second.step? other [character] <;>
        simp only [here, there, Option.map_none, Option.map_some, Option.some.injEq,
          reduceCtorEq] at led
      · exact ⟨rfl, same⟩
      · obtain ⟨taken, last⟩ := ih led
        exact ⟨congrArg (character :: ·) taken, last⟩

theorem span_headMatch [Token α] [Token β] (alike : Alike first second) (start : Nat)
    (character : Char) (rest : Text) :
    (first.headMatch start character rest).span = (second.headMatch start character rest).span := by
  have led := alike.step? alike.outline [character]
  unfold headMatch
  cases here : first.step? first.root [character] <;>
    cases there : second.step? second.root [character] <;>
    simp only [here, there, Option.map_none, Option.map_some, Option.some.injEq,
      reduceCtorEq] at led
  · rfl
  · obtain ⟨taken, last⟩ := alike.follow led rest
    simp [Match.span, taken, (Node.outline_eq_iff.1 last).1]

theorem span_matchAt [Token α] [Token β] (alike : Alike first second) (text : Text)
    (position : Nat) :
    (first.matchAt text position).map Match.span =
      (second.matchAt text position).map Match.span := by
  unfold matchAt
  split
  · rfl
  · exact congrArg Except.ok (alike.span_headMatch ..)

theorem freeze (alike : Alike first second) : Alike first.freeze second.freeze :=
  ⟨alike.outline, alike.caseInsensitive, rfl⟩

theorem insert (alike : Alike first second) (path : Path) (token : α) (other : β) :
    Agree Alike (first.insert path token) (second.insert path other) := by
  have reach (path : Path) : first.root.below.reach path = second.root.below.reach path := by
    rw [← first.root.below.reach_outline, (Node.outline_eq_iff.1 alike.outline).2,
      Branches.reach_outline]
  simp only [Trie.insert, alike.normalize, alike.frozen, reach]
  split
  · exact .error _
  · split
    · exact .error _
    · refine .ok ⟨?_, alike.caseInsensitive, rfl⟩
      rw [Node.outline_insert, Node.outline_insert, alike.outline]

theorem insertAll {ι : Type} (alike : Alike first second) (rules : List ι) (path : ι → Path)
    (token : ι → α) (other : ι → β) :
    Agree Alike (first.insertAll (rules.map fun rule => (path rule, token rule)))
      (second.insertAll (rules.map fun rule => (path rule, other rule))) := by
  induction rules generalizing first second with
  | nil => exact .ok alike
  | cons rule rules ih => exact (alike.insert ..).bind fun _ _ next => ih next

theorem merged [Token α] [Token β] {laid : Trie α} {otherLaid : Trie β} (alike : Alike first second)
    (layers : Alike laid otherLaid) (resolve : Resolver α) (otherResolve : Resolver β)
    (choice : Choice) :
    Alike (Trie.merged resolve [first, laid] choice)
      (Trie.merged otherResolve [second, otherLaid] choice) := by
  refine ⟨?_, by simp [Trie.merged, Trie.empty, alike.caseInsensitive], rfl⟩
  simp only [Trie.merged, List.foldl_cons, List.foldl_nil, Node.outline_merge, alike.outline,
    layers.outline]
  rfl

theorem overlay [Token α] {second : Trie α} (alike : Alike first second) (resolve : Resolver α)
    (mapping : Option (Mapping α)) :
    Agree Alike (first.overlay resolve mapping) (second.overlay resolve mapping) := by
  cases mapping with
  | none => exact .ok alike
  | some mapping =>
      simp only [Trie.overlay, alike.caseInsensitive]
      apply (Agree.refl _).bind
      intro rules _ same
      subst same
      exact .ok (alike.merged ⟨rfl, rfl, rfl⟩ _ _ _)

end Alike
end Trie
end Honji
