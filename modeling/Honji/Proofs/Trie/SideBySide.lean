import Honji.Proofs.Trie.LongestMatch
import Mathlib.Data.List.Forall2

/-!
Two texts cut side by side. Where a trie does not tell the characters of one text from those of
another, it cuts both at the same places, and by the same rules.
-/

namespace Honji

namespace Match
variable {α β : Type}

theorem forall₂_scan {head : Nat → Char → Text → Match α} {other : Nat → Char → Text → Match β}
    {same : Char → Char → Prop} {related : Match α → Match β → Prop}
    (heads : ∀ start one two rest later, same one two → List.Forall₂ same rest later →
      related (head start one rest) (other start two later))
    (lengths : ∀ piece second, related piece second →
      piece.source.length = second.source.length)
    {first second : Text} (texts : List.Forall₂ same first second) (skip position : Nat) :
    List.Forall₂ related (scan head skip position first) (scan other skip position second) := by
  induction texts generalizing skip position with
  | nil => cases skip <;> exact .nil
  | cons here rest ih =>
      cases skip with
      | succ skip => exact ih skip (position + 1)
      | zero =>
          have front := heads position _ _ _ _ here rest
          rw [scan, scan, lengths _ _ front]
          exact .cons front (ih _ _)

structure Parallel (piece other : Match α) : Prop where
  start : piece.start = other.start
  kind : piece.kind = other.kind
  length : piece.source.length = other.source.length
  token : piece.kind ≠ .fallback → piece.token = other.token

def place (piece : Match α) : Nat × Nat × MatchKind :=
  (piece.start, piece.stop, piece.kind)

theorem Parallel.place_eq {piece other : Match α} (parallel : Parallel piece other) :
    piece.place = other.place := by
  simp [place, stop, parallel.start, parallel.length, parallel.kind]

theorem map_place_eq {pieces others : List (Match α)}
    (parallel : List.Forall₂ Parallel pieces others) :
    pieces.map place = others.map place := by
  induction parallel with
  | nil => rfl
  | cons front _ ih => rw [List.map_cons, List.map_cons, front.place_eq, ih]

theorem map_place (pieces : List (Match α)) : pieces.map place =
    (pieces.map span).map fun span => (span.1, span.1 + span.2.1.length, span.2.2) := by
  simp [Function.comp_def, place, span, stop]

end Match

namespace Trie
variable {α : Type} {trie : Trie α}

/-- A trie does not tell two characters apart: at each of its nodes both lead to the same child. -/
def Blurs (trie : Trie α) (one other : Char) : Prop :=
  ∀ path node, trie.root.find? path = some node →
    trie.step? node [one] = trie.step? node [other]

theorem blurs_of_normalize {one other : Char}
    (same : trie.normalize [one] = trie.normalize [other]) : trie.Blurs one other := by
  intro path node _
  rw [step?, step?, same]

theorem find?_step {path : Path} {node child : Node α} {symbol : Symbol}
    (inside : trie.root.find? path = some node) (led : trie.step? node symbol = some child) :
    trie.root.find? (path ++ [trie.normalize symbol]) = some child := by
  rw [Node.find?_append, inside, Option.bind_some, Node.find?_cons]
  exact congrArg (·.bind (·.find? [])) led

theorem follow_blurs {path : Path} {node : Node α} (inside : trie.root.find? path = some node)
    {first second : Text} (texts : List.Forall₂ trie.Blurs first second) :
    (trie.follow node first).1.length = (trie.follow node second).1.length ∧
      (trie.follow node first).2 = (trie.follow node second).2 := by
  induction texts generalizing path node with
  | nil => exact ⟨rfl, rfl⟩
  | cons here rest ih =>
      rw [follow, follow, here path node inside]
      split
      · exact ⟨rfl, rfl⟩
      · next child led =>
          obtain ⟨taken, last⟩ := ih (find?_step inside led)
          exact ⟨congrArg (· + 1) taken, last⟩

theorem parallel_headMatch [Token α] {one other : Char} {rest later : Text} (start : Nat)
    (here : trie.Blurs one other) (texts : List.Forall₂ trie.Blurs rest later) :
    Match.Parallel (trie.headMatch start one rest) (trie.headMatch start other later) := by
  have led := here [] trie.root rfl
  unfold headMatch
  cases found : trie.step? trie.root [other] with
  | none =>
      rw [led, found]
      exact ⟨rfl, rfl, rfl, fun ruled => absurd rfl ruled⟩
  | some child =>
      rw [led, found]
      obtain ⟨taken, last⟩ := follow_blurs (find?_step (Node.find?_nil _) found) texts
      exact ⟨rfl, by simp [last], by simp [taken], fun _ => by simp [last]⟩

theorem parallel_tokenize [Token α] {first second : Text}
    (texts : List.Forall₂ trie.Blurs first second) :
    List.Forall₂ Match.Parallel (trie.tokenize first) (trie.tokenize second) := by
  refine Match.forall₂_scan ?_ (fun _ _ parallel => parallel.length) texts 0 0
  intro start one other rest later here texts
  exact parallel_headMatch start here texts

end Trie
end Honji
