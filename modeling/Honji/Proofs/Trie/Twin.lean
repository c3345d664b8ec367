import Honji.Proofs.Trie.Alike
import Honji.Proofs.Trie.Joint

/-!
Two computations that build tries side by side. They are twins if, wherever both return, tries that
were alike before are alike afterwards.
-/

namespace Honji
namespace Build
variable {α β : Type}

abbrev Twin (related : α → β → Prop) (first : Build α) (second : Build β) : Prop :=
  Joint Trie.Alike related first second

abbrev Twins (first : Build α) (second : Build β) : Prop :=
  Joints Trie.Alike first second

namespace Twin

theorem root : Twin (fun one two => one.outline = two.outline) root root :=
  Joint.root fun _ _ alike => alike.outline

theorem insert (path : Path) (token other : Text) :
    Twins (insert path token) (insert path other) := by
  apply Joint.change
  intro trie otherTrie built otherBuilt alike ran otherRan
  have agree := alike.insert path token other
  rw [ran, otherRan] at agree
  cases agree with
  | ok both => exact both

theorem insertNew (path : Path) (token other : Text) :
    Twins (insertNew path token) (insertNew path other) :=
  Joint.insertNew (insert path token other)

theorem attach {child other : Node Text} (path : Path) (symbol : Symbol)
    (same : child.outline = other.outline) :
    Twins (attach path symbol child) (attach path symbol other) := by
  apply Joint.change
  intro trie otherTrie built otherBuilt alike ran otherRan
  obtain ⟨-, -, rfl⟩ := Trie.attach_eq_ok.1 ran
  obtain ⟨-, -, rfl⟩ := Trie.attach_eq_ok.1 otherRan
  refine ⟨?_, alike.caseInsensitive, alike.frozen⟩
  rw [Node.outline_plant, Node.outline_plant, alike.outline, same]

theorem add (path : Path) (symbol : Symbol) (token other : Text) :
    Twins (add path symbol token) (add path symbol other) :=
  attach path symbol rfl

end Twin
end Build
end Honji
