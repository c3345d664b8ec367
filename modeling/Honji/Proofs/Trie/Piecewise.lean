import Honji.Proofs.Trie.LongestMatch

/-!
Conversion piece by piece. What is written for a text is what is written for its first piece, and
then what is written for the text behind it, wherever in a text that stands.
-/

namespace Honji

namespace Match
variable {α : Type} {head : Nat → Char → Text → Match α} {write : Match α → Text}

def Unplaced (head : Nat → Char → Text → Match α) (write : Match α → Text) : Prop :=
  ∀ start other character rest,
    (head start character rest).source = (head other character rest).source ∧
      write (head start character rest) = write (head other character rest)

theorem Unplaced.flatMap_scan (unplaced : Unplaced head write) (cuts : Cuts head)
    (start other : Nat) (text : Text) :
    (scan head 0 start text).flatMap write = (scan head 0 other text).flatMap write := by
  induction start, text using cuts.induction generalizing other with
  | nil position => rfl
  | cons position character taken later start source ih =>
      obtain ⟨sameSource, sameWritten⟩ := unplaced position other character (taken ++ later)
      have otherStart := (cuts other character (taken ++ later)).1
      rw [scan_cons start source, scan_cons otherStart (sameSource ▸ source), List.flatMap_cons,
        List.flatMap_cons, sameWritten, ih]

theorem Unplaced.flatMap_scan_append (unplaced : Unplaced head write) (cuts : Cuts head)
    {character : Char} {taken later : Text}
    (source : (head 0 character (taken ++ later)).source = character :: taken) :
    (scan head 0 0 (character :: taken ++ later)).flatMap write =
      write (head 0 character (taken ++ later)) ++ (scan head 0 0 later).flatMap write := by
  rw [scan_cons (cuts 0 character (taken ++ later)).1 source, List.flatMap_cons,
    unplaced.flatMap_scan cuts _ 0]

end Match

namespace Trie
variable {trie : Trie Text}

theorem unplaced_headMatch (trie : Trie Text) (write : Match Text → Text)
    (unplaced : ∀ piece start, write { piece with start := start } = write piece) :
    Match.Unplaced trie.headMatch write := by
  intro start other character rest
  have moved : trie.headMatch start character rest =
      { trie.headMatch other character rest with start := start } := by
    unfold headMatch
    split <;> rfl
  rw [moved]
  exact ⟨rfl, unplaced _ start⟩

theorem flatMap_tokenize_append {write : Match Text → Text}
    (unplaced : ∀ piece start, write { piece with start := start } = write piece)
    {taken later : Text} {node : Node Text} (filled : taken ≠ [])
    (reached : trie.reach? trie.root taken = some node) (halts : trie.Halts node later) :
    (trie.tokenize (taken ++ later)).flatMap write =
      write ⟨node.entry.token, 0, taken, kindAt node⟩ ++ (trie.tokenize later).flatMap write := by
  obtain ⟨character, taken, rfl⟩ := List.exists_cons_of_ne_nil filled
  have piece : trie.headMatch 0 character (taken ++ later) = _ := headMatch_eq reached halts
  have source : (trie.headMatch 0 character (taken ++ later)).source = character :: taken := by
    rw [piece]
  have front := (trie.unplaced_headMatch write unplaced).flatMap_scan_append trie.cuts_headMatch
    source
  rwa [piece] at front

end Trie
end Honji
