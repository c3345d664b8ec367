import Honji.Trie.Basic

/-!
Greedy matching: from each position of a text the trie is followed as far as it goes, and the
token of the last node reached stands for the piece that was consumed. A character that the root
does not know stands for itself.
-/

namespace Honji

inductive MatchKind where
  | terminal
  | placeholder
  | fallback
  deriving DecidableEq

def MatchKind.name : MatchKind → Text
  | .terminal => "terminal".toList
  | .placeholder => "placeholder".toList
  | .fallback => "fallback".toList

structure Match (α : Type) where
  token : α
  start : Nat
  source : Text
  kind : MatchKind
  deriving DecidableEq

def Match.stop {α : Type} (piece : Match α) : Nat :=
  piece.start + piece.source.length

/--
Cuts a text into pieces, where the first `skip` characters belong to a piece already made. `head`
gives the piece at a position from the character there and the text behind it.
-/
def Match.scan {α : Type} (head : Nat → Char → Text → Match α) :
    Nat → Nat → Text → List (Match α)
  | _, _, [] => []
  | skip + 1, position, _ :: rest => Match.scan head skip (position + 1) rest
  | 0, position, character :: rest =>
      let piece := head position character rest
      piece :: Match.scan head (piece.source.length - 1) (position + 1) rest

theorem Match.scan_skip {α : Type} (head : Nat → Char → Text → Match α)
    (skip position : Nat) (text : Text) :
    Match.scan head skip position text =
      Match.scan head 0 (position + skip) (text.drop skip) := by
  induction skip generalizing position text with
  | zero => rfl
  | succ skip ih =>
      cases text with
      | nil => simp [Match.scan]
      | cons character rest =>
          rw [Match.scan, ih]
          simp [Nat.add_assoc, Nat.add_comm 1 skip]

namespace Trie
variable {α : Type}

/-- Follows a text from a node as far as it leads: the part consumed and the node reached. -/
def follow (trie : Trie α) (node : Node α) : Text → Text × Node α
  | [] => ([], node)
  | character :: rest =>
      match trie.step? node [character] with
      | none => ([], node)
      | some child =>
          let (taken, last) := trie.follow child rest
          (character :: taken, last)

def headMatch [Token α] (trie : Trie α) (start : Nat) (character : Char) (rest : Text) :
    Match α :=
  match trie.step? trie.root [character] with
  | none => ⟨Token.ofText [character], start, [character], .fallback⟩
  | some node =>
      let (taken, last) := trie.follow node rest
      ⟨last.entry.token, start, character :: taken,
        if last.entry.terminal.taken then .terminal else .placeholder⟩

def matchAt [Token α] (trie : Trie α) (text : Text) (position : Nat) :
    Except Failure (Match α) :=
  match text.drop position with
  | [] => .error .pastTheEnd
  | character :: rest => .ok (trie.headMatch position character rest)

def tokenize [Token α] (trie : Trie α) (text : Text) : List (Match α) :=
  Match.scan trie.headMatch 0 0 text

end Trie

/-- The report of a piece that no rule stood for. -/
structure Event (α : Type) where
  kind : MatchKind
  converter : Text
  start : Nat
  stop : Nat
  text : Text
  token : α
  deriving DecidableEq

def Match.event? {α : Type} (converter : Text) (piece : Match α) : Option (Event α) :=
  match piece.kind with
  | .terminal => none
  | kind => some ⟨kind, converter, piece.start, piece.stop, piece.source, piece.token⟩

def Trie.convert (trie : Trie Text) (text : Text) : Text :=
  (trie.tokenize text).flatMap (·.token)

end Honji
