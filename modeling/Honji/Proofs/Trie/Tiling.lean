import Honji.Trie.Match
import Mathlib.Logic.ExistsUnique

/-!
Texts cut into pieces that lie side by side. A scan whose head consumes a beginning of what is left
cuts the whole text, and no part of it twice.
-/

namespace Honji
namespace Match
variable {α : Type}

def Tiles : Nat → Text → List (Match α) → Prop
  | _, text, [] => text = []
  | position, text, piece :: pieces =>
      piece.start = position ∧ piece.source ≠ [] ∧
        ∃ later, text = piece.source ++ later ∧ Tiles piece.stop later pieces

def Cuts (head : Nat → Char → Text → Match α) : Prop :=
  ∀ start character rest, (head start character rest).start = start ∧
    ∃ taken, (head start character rest).source = character :: taken ∧ taken <+: rest

variable {head : Nat → Char → Text → Match α}

theorem scan_cons {position : Nat} {character : Char} {taken later : Text}
    (start : (head position character (taken ++ later)).start = position)
    (source : (head position character (taken ++ later)).source = character :: taken) :
    scan head 0 position (character :: taken ++ later) =
      head position character (taken ++ later) ::
        scan head 0 (head position character (taken ++ later)).stop later := by
  rw [List.cons_append, scan, scan_skip]
  simp [stop, start, source, Nat.add_assoc, Nat.add_comm 1]

theorem Cuts.induction (cuts : Cuts head) {motive : Nat → Text → Prop}
    (nil : ∀ position, motive position [])
    (cons : ∀ position character taken later,
      (head position character (taken ++ later)).start = position →
      (head position character (taken ++ later)).source = character :: taken →
      motive (head position character (taken ++ later)).stop later →
      motive position (character :: taken ++ later)) (position : Nat) (text : Text) :
    motive position text := by
  induction size : text.length using Nat.strongRecOn generalizing position text with
  | ind size ih =>
      cases text with
      | nil => exact nil position
      | cons character rest =>
          obtain ⟨start, taken, source, later, rfl⟩ := cuts position character rest
          apply cons position character taken later start source
          exact ih later.length (by simp at size; omega) _ _ rfl

theorem scan_tiles (cuts : Cuts head) (position : Nat) (text : Text) :
    Tiles position text (scan head 0 position text) := by
  induction position, text using cuts.induction with
  | nil position => rfl
  | cons position character taken later start source ih =>
      rw [scan_cons start source]
      exact ⟨start, by simp [source], later, by rw [source], ih⟩

theorem mem_scan (cuts : Cuts head) {piece : Match α} {position : Nat} {text : Text}
    (member : piece ∈ scan head 0 position text) :
    ∃ before character rest, text = before ++ character :: rest ∧
      piece = head (position + before.length) character rest := by
  induction position, text using cuts.induction with
  | nil position => simp [scan] at member
  | cons position character taken later start source ih =>
      rw [scan_cons start source] at member
      rcases List.mem_cons.1 member with rfl | member
      · exact ⟨[], character, taken ++ later, rfl, rfl⟩
      · obtain ⟨before, next, rest, rfl, made⟩ := ih member
        refine ⟨character :: taken ++ before, next, rest, by simp, ?_⟩
        rw [made, stop, start, source]
        simp [Nat.add_assoc, Nat.add_comm 1]

def span (piece : Match α) : Nat × Text × MatchKind :=
  (piece.start, piece.source, piece.kind)

theorem map_span_scan {β : Type} {other : Nat → Char → Text → Match β}
    (same : ∀ start character rest,
      (head start character rest).span = (other start character rest).span)
    (skip position : Nat) (text : Text) :
    (scan head skip position text).map span = (scan other skip position text).map span := by
  induction text generalizing skip position with
  | nil => cases skip <;> rfl
  | cons character rest ih =>
      cases skip with
      | succ skip => exact ih skip (position + 1)
      | zero =>
          have source : (head position character rest).source =
              (other position character rest).source :=
            congrArg (·.2.1) (same position character rest)
          simp only [scan, List.map_cons, same, source, ih]

theorem Tiles.sources {position : Nat} {text : Text} {pieces : List (Match α)}
    (tiles : Tiles position text pieces) : pieces.flatMap source = text := by
  induction pieces generalizing position text with
  | nil => exact tiles.symm
  | cons piece pieces ih =>
      obtain ⟨-, -, later, rfl, tiles⟩ := tiles
      simp [ih tiles]

theorem Tiles.length_le {position : Nat} {text : Text} {pieces : List (Match α)}
    (tiles : Tiles position text pieces) : pieces.length ≤ text.length := by
  induction pieces generalizing position text with
  | nil => simp
  | cons piece pieces ih =>
      obtain ⟨-, filled, later, rfl, tiles⟩ := tiles
      have one : 0 < piece.source.length := List.length_pos_iff.2 filled
      have rest : pieces.length ≤ later.length := ih tiles
      simp only [List.length_cons, List.length_append]
      omega

theorem Tiles.le_start {position : Nat} {text : Text} {pieces : List (Match α)}
    (tiles : Tiles position text pieces) {piece : Match α} (member : piece ∈ pieces) :
    position ≤ piece.start := by
  induction pieces generalizing position text with
  | nil => simp at member
  | cons first pieces ih =>
      obtain ⟨start, -, later, -, tiles⟩ := tiles
      rcases List.mem_cons.1 member with rfl | member
      · exact Nat.le_of_eq start.symm
      · have behind : first.stop ≤ piece.start := ih tiles member
        rw [stop] at behind
        omega

theorem Tiles.existsUnique {position : Nat} {text : Text} {pieces : List (Match α)}
    (tiles : Tiles position text pieces) {place : Nat} (after : position ≤ place)
    (before : place < position + text.length) :
    ∃! number : Fin pieces.length, pieces[number].start ≤ place ∧ place < pieces[number].stop := by
  induction pieces generalizing position text with
  | nil =>
      obtain rfl : text = [] := tiles
      simp at before
      omega
  | cons piece pieces ih =>
      obtain ⟨start, -, later, rfl, tiles⟩ := tiles
      by_cases inside : place < piece.stop
      · refine ⟨⟨0, by simp⟩, ⟨Nat.le_trans (Nat.le_of_eq start) after, inside⟩,
          fun other covers => ?_⟩
        obtain ⟨_ | number, bound⟩ := other
        · rfl
        · have bound : number < pieces.length := by simpa using bound
          have behind : piece.stop ≤ pieces[number].start :=
            tiles.le_start (List.getElem_mem _)
          have covered : pieces[number].start ≤ place := covers.1
          omega
      · have rest : place < piece.stop + later.length := by
          rw [stop, start]
          simp only [List.length_append] at before
          omega
        obtain ⟨number, covers, unique⟩ := ih tiles (Nat.le_of_not_lt inside) rest
        refine ⟨number.succ, covers, fun other covered => ?_⟩
        obtain ⟨_ | other, bound⟩ := other
        · exact absurd covered.2 inside
        · exact congrArg Fin.succ (unique ⟨other, by simpa using bound⟩ covered)

section
variable {position : Nat} {text : Text} {pieces : List (Match α)} {piece : Match α}

theorem Tiles.pairwise (tiles : Tiles position text pieces) :
    pieces.Pairwise fun earlier later => earlier.stop ≤ later.start := by
  induction pieces generalizing position text with
  | nil => exact .nil
  | cons piece pieces ih =>
      obtain ⟨-, -, later, -, behind⟩ := tiles
      exact List.pairwise_cons.2 ⟨fun _ member => behind.le_start member, ih behind⟩

theorem Tiles.stop_le_length (tiles : Tiles position text pieces) (member : piece ∈ pieces) :
    piece.start < piece.stop ∧ piece.stop ≤ position + text.length := by
  induction pieces generalizing position text with
  | nil => simp at member
  | cons first pieces ih =>
      obtain ⟨start, filled, later, rfl, behind⟩ := tiles
      have size := List.length_pos_iff.2 filled
      have ends : first.stop = position + first.source.length := by rw [stop, start]
      rw [List.length_append]
      rcases List.mem_cons.1 member with rfl | member
      · omega
      · have bounds := ih behind member
        omega

theorem Tiles.eq_of_covers (tiles : Tiles position text pieces) {other : Match α}
    (member : piece ∈ pieces) (also : other ∈ pieces) {place : Nat}
    (here : piece.start ≤ place ∧ place < piece.stop)
    (there : other.start ≤ place ∧ place < other.stop) : piece = other := by
  obtain ⟨number, bound, rfl⟩ := List.getElem_of_mem member
  obtain ⟨second, boundToo, rfl⟩ := List.getElem_of_mem also
  have after : position ≤ place := Nat.le_trans (tiles.le_start member) here.1
  have before : place < position + text.length :=
    Nat.lt_of_lt_of_le here.2 (tiles.stop_le_length member).2
  obtain ⟨_, -, only⟩ := tiles.existsUnique after before
  have same := (only ⟨number, bound⟩ here).trans (only ⟨second, boundToo⟩ there).symm
  obtain rfl : number = second := congrArg Fin.val same
  rfl

end

end Match
end Honji
