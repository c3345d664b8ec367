import Honji.Proofs.Trie.Greedy
import Honji.Proofs.Trie.Tiling
import Honji.Trie.Pieces

/-!
The pieces of a text are its longest matches. At each position the piece ends at the last position
up to which looking the text up leads to a node, and one after another the pieces cover the text.
-/

namespace Honji

def Text.slice (text : Text) (first last : Nat) : Text :=
  (text.take last).drop first

theorem Text.slice_append (before after : Text) (last : Nat) :
    Text.slice (before ++ after) before.length last = after.take (last - before.length) := by
  simp [slice, List.drop_take]

theorem Text.eq_append_cons_of_lt (text : Text) {position : Nat} (inside : position < text.length) :
    ∃ before character rest, text = before ++ character :: rest ∧ before.length = position :=
  ⟨text.take position, text[position], text.drop (position + 1), by simp, by simp; omega⟩

namespace Trie
variable {α : Type}

theorem contains_ofText_cons (trie : Trie α) {character : Char} {taken : Text} {node : Node α}
    (reached : trie.reach? trie.root (character :: taken) = some node) :
    trie.contains (.ofText (character :: taken)) = node.entry.terminal.taken := by
  rw [contains, find?_ofText, reached]
  rfl

section
variable [Token α]

/--
What a piece is at a position of a text. Where looking up the character there leads nowhere, it is
that character as it stands; else it ends at the last position up to which looking up leads to a
node, and that node gives its token.
-/
def IsLongest (trie : Trie α) (text : Text) (position : Nat) (piece : Match α) : Prop :=
  piece.start = position ∧ piece.source = text.slice position piece.stop ∧
  match trie.find? (.ofText (text.slice position (position + 1))) with
  | none =>
      piece.stop = position + 1 ∧ piece.kind = .fallback ∧
        piece.token = Token.ofText (text.slice position (position + 1))
  | some _ =>
      IsGreatest {stop | stop ≤ text.length ∧
          (trie.find? (.ofText (text.slice position stop))).isSome} piece.stop ∧
        (trie.find? (.ofText (text.slice position piece.stop))).map (·.entry.token) =
          some piece.token ∧
        piece.kind = if trie.contains (.ofText (text.slice position piece.stop)) then .terminal
          else .placeholder

theorem headMatch_isLongest (trie : Trie α) (before : Text) (character : Char) (rest : Text) :
    trie.IsLongest (before ++ character :: rest) before.length
      (trie.headMatch before.length character rest) := by
  have one : before.length + 1 - before.length = 1 := by omega
  have single : trie.reach? trie.root [character] = trie.step? trie.root [character] := by
    simp [reach?_cons]
  cases led : trie.step? trie.root [character] with
  | none =>
      rw [headMatch_none led]
      simp [IsLongest, Match.stop, Text.slice_append, one, find?_ofText, single, led]
  | some child =>
      have known : trie.step? trie.root [character] ≠ none := by simp [led]
      obtain ⟨taken, later, node, rfl, reached, halts⟩ := exists_reach rest known
      rw [headMatch_eq reached halts]
      have upTo : (character :: (taken ++ later)).take (taken.length + 1) = character :: taken := by
        simp
      have bound : before.length + (taken.length + 1) - before.length = taken.length + 1 := by omega
      simp only [IsLongest, Match.stop, Text.slice_append, one, List.take_succ_cons,
        List.take_zero, find?_ofText, single, led, List.length_cons, bound, List.take_left, reached,
        Option.map_some, true_and]
      refine ⟨⟨⟨?_, ?_⟩, ?_⟩, ?_⟩
      · simp only [List.length_append, List.length_cons]
        omega
      · simp [bound, reached]
      · rintro stop ⟨inside, leads⟩
        have shorter := length_le_of_halts reached halts (List.take_prefix _ _)
          (Option.isSome_iff_ne_none.1 leads)
        simp only [List.length_take, List.length_append, List.length_cons] at shorter inside
        omega
      · rw [contains_ofText_cons trie reached, kindAt]

theorem matchAt_append (trie : Trie α) (before : Text) (character : Char) (rest : Text) :
    trie.matchAt (before ++ character :: rest) before.length =
      .ok (trie.headMatch before.length character rest) := by
  simp [matchAt]

theorem cuts_headMatch (trie : Trie α) : Match.Cuts trie.headMatch :=
  fun start character rest => ⟨start_headMatch start character rest,
    source_headMatch start character rest⟩

theorem tokenize_tiles (trie : Trie α) (text : Text) :
    Match.Tiles 0 text (trie.tokenize text) :=
  Match.scan_tiles trie.cuts_headMatch 0 text

theorem matchAt_of_mem_tokenize {trie : Trie α} {text : Text} {piece : Match α}
    (member : piece ∈ trie.tokenize text) : trie.matchAt text piece.start = .ok piece := by
  obtain ⟨before, character, rest, rfl, rfl⟩ := Match.mem_scan trie.cuts_headMatch member
  simp [matchAt_append]

/--
Greedy matching finds the longest match at every position; the pieces of a text lie side by side
and cover each of its positions once; and without a caller's rules the conversion of a text is
the tokens of its pieces in a row.
-/
theorem tokenize_longest (trie : Trie α) (text : Text) :
    (∀ position : Fin text.length, ∃ piece, trie.matchAt text position = .ok piece ∧
      trie.IsLongest text position piece) ∧
    Match.Tiles 0 text (trie.tokenize text) ∧
    (trie.tokenize text).length ≤ text.length ∧
    (∀ position : Fin text.length, ∃! number : Fin (trie.tokenize text).length,
      (trie.tokenize text)[number].start ≤ position ∧
        position < (trie.tokenize text)[number].stop) ∧
    (∀ number : Fin (trie.tokenize text).length,
      trie.matchAt text (trie.tokenize text)[number].start = .ok (trie.tokenize text)[number]) ∧
    (∀ resolve, trie.pieces resolve none text = .ok (trie.tokenize text)) ∧
    ∀ words : Trie Text, words.convert text = ((words.tokenize text).map (·.token)).flatten := by
  have tiles := trie.tokenize_tiles text
  refine ⟨fun position => ?_, tiles, tiles.length_le, fun position => ?_, fun number => ?_,
    fun resolve => ?_, fun words => ?_⟩
  · obtain ⟨before, character, rest, rfl, place⟩ := text.eq_append_cons_of_lt position.2
    rw [← place]
    exact ⟨_, matchAt_append trie before character rest,
      headMatch_isLongest trie before character rest⟩
  · exact tiles.existsUnique (Nat.zero_le _) (by simp)
  · exact matchAt_of_mem_tokenize (List.getElem_mem _)
  · cases text with
    | nil => rfl
    | cons character rest => rfl
  · exact List.flatMap_def ..

end

end Trie
end Honji
