import Honji.Trie.Match
import Mathlib.Order.Bounds.Basic

/-!
Greedy matching against looking paths up. Following a text from a node consumes a part that leads
to a node, and no child of that node goes by the character behind the part; so the piece at a
position ends at the last position up to which a path leads.
-/

namespace Honji

namespace Path

@[simp] theorem ofText_eq_nil {text : Text} : ofText text = [] ↔ text = [] :=
  List.map_eq_nil_iff

theorem ofText_append (first second : Text) :
    ofText (first ++ second) = ofText first ++ ofText second :=
  List.map_append

theorem ofText_eq_singleton {symbol : Symbol} (single : symbol.length = 1) :
    ofText symbol = [symbol] := by
  obtain ⟨character, rfl⟩ := List.length_eq_one_iff.1 single
  rfl

end Path

namespace Trie
variable {α : Type}

def reach? (trie : Trie α) (node : Node α) (text : Text) : Option (Node α) :=
  (Path.ofText text).foldlM trie.step? node

def Halts (trie : Trie α) (node : Node α) (text : Text) : Prop :=
  ∀ character ∈ text.head?, trie.step? node [character] = none

variable {trie : Trie α}

theorem find?_ofText (trie : Trie α) (text : Text) :
    trie.find? (Path.ofText text) = trie.reach? trie.root text := rfl

@[simp] theorem reach?_nil (node : Node α) : trie.reach? node [] = some node := rfl

theorem reach?_cons (node : Node α) (character : Char) (text : Text) :
    trie.reach? node (character :: text) =
      (trie.step? node [character]).bind (trie.reach? · text) := by
  simp only [reach?, Path.ofText, List.map_cons, List.foldlM_cons]
  rfl

theorem reach?_append (node : Node α) (first second : Text) :
    trie.reach? node (first ++ second) =
      (trie.reach? node first).bind (trie.reach? · second) := by
  induction first generalizing node with
  | nil => rfl
  | cons character first ih =>
      rw [List.cons_append, reach?_cons, reach?_cons]
      cases trie.step? node [character] with
      | none => rfl
      | some child => exact ih child

@[simp] theorem halts_nil (node : Node α) : trie.Halts node [] := by
  simp [Halts]

@[simp] theorem halts_cons {node : Node α} {character : Char} {text : Text} :
    trie.Halts node (character :: text) ↔ trie.step? node [character] = none := by
  simp [Halts]

theorem follow_spec (trie : Trie α) (node : Node α) (text : Text) :
    ∃ rest, text = (trie.follow node text).1 ++ rest ∧
      trie.reach? node (trie.follow node text).1 = some (trie.follow node text).2 ∧
      trie.Halts (trie.follow node text).2 rest := by
  induction text generalizing node with
  | nil => exact ⟨[], rfl, rfl, halts_nil node⟩
  | cons character text ih =>
      rw [follow]
      cases led : trie.step? node [character] with
      | none => exact ⟨character :: text, rfl, rfl, halts_cons.2 led⟩
      | some child =>
          obtain ⟨rest, cut, reached, halts⟩ := ih child
          refine ⟨rest, congrArg (character :: ·) cut, ?_, halts⟩
          simpa [reach?_cons, led] using reached

theorem follow_eq {node last : Node α} {taken rest : Text}
    (reached : trie.reach? node taken = some last) (halts : trie.Halts last rest) :
    trie.follow node (taken ++ rest) = (taken, last) := by
  induction taken generalizing node with
  | nil =>
      obtain rfl : node = last := Option.some.inj reached
      cases rest with
      | nil => rfl
      | cons character rest => simp [follow, halts_cons.1 halts]
  | cons character taken ih =>
      rw [reach?_cons] at reached
      obtain ⟨child, led, reached⟩ := Option.bind_eq_some_iff.1 reached
      rw [List.cons_append, follow]
      simp [led, ih reached]

theorem step?_eq_none_iff {node last : Node α} {taken : Text}
    (reached : trie.reach? node taken = some last) (character : Char) :
    trie.step? last [character] = none ↔ trie.reach? node (taken ++ [character]) = none := by
  rw [reach?_append, reached, Option.bind_some, reach?_cons]
  cases trie.step? last [character] <;> simp

theorem length_le_of_halts {node last : Node α} {taken rest first : Text}
    (reached : trie.reach? node taken = some last) (halts : trie.Halts last rest)
    (beginning : first <+: taken ++ rest) (leads : trie.reach? node first ≠ none) :
    first.length ≤ taken.length := by
  by_contra longer
  obtain ⟨more, rfl⟩ : taken <+: first :=
    List.prefix_of_prefix_length_le (List.prefix_append _ _) beginning (by omega)
  cases more with
  | nil => simp at longer
  | cons character more =>
      have next : character ∈ rest.head? := by
        obtain ⟨later, whole⟩ := beginning
        have same : character :: more ++ later = rest := by simpa using whole
        simp [← same]
      apply leads
      simp [reach?_append, reached, reach?_cons, halts character next]

/-! ### The piece at the front of a text -/

def kindAt (node : Node α) : MatchKind :=
  if node.entry.terminal.taken then .terminal else .placeholder

theorem headMatch_none [Token α] {start : Nat} {character : Char} {rest : Text}
    (unknown : trie.step? trie.root [character] = none) :
    trie.headMatch start character rest =
      ⟨Token.ofText [character], start, [character], .fallback⟩ := by
  simp [headMatch, unknown]

theorem headMatch_eq [Token α] {start : Nat} {character : Char} {taken rest : Text}
    {node : Node α} (reached : trie.reach? trie.root (character :: taken) = some node)
    (halts : trie.Halts node rest) :
    trie.headMatch start character (taken ++ rest) =
      ⟨node.entry.token, start, character :: taken, kindAt node⟩ := by
  rw [reach?_cons] at reached
  obtain ⟨child, led, reached⟩ := Option.bind_eq_some_iff.1 reached
  simp [headMatch, led, follow_eq reached halts, kindAt]

theorem exists_reach {character : Char} (rest : Text)
    (known : trie.step? trie.root [character] ≠ none) :
    ∃ taken later node, rest = taken ++ later ∧
      trie.reach? trie.root (character :: taken) = some node ∧ trie.Halts node later := by
  obtain ⟨child, led⟩ := Option.ne_none_iff_exists'.1 known
  obtain ⟨later, cut, reached, halts⟩ := trie.follow_spec child rest
  exact ⟨_, later, _, cut, by simpa [reach?_cons, led] using reached, halts⟩

@[simp] theorem start_headMatch [Token α] (start : Nat) (character : Char) (rest : Text) :
    (trie.headMatch start character rest).start = start := by
  unfold headMatch
  split <;> rfl

theorem source_headMatch [Token α] (start : Nat) (character : Char) (rest : Text) :
    ∃ taken, (trie.headMatch start character rest).source = character :: taken ∧
      taken <+: rest := by
  unfold headMatch
  cases led : trie.step? trie.root [character] with
  | none => exact ⟨[], rfl, List.nil_prefix⟩
  | some child =>
      obtain ⟨later, cut, -⟩ := trie.follow_spec child rest
      exact ⟨_, rfl, later, cut.symm⟩

end Trie
end Honji
