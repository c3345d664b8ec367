import Honji.Proofs.Trie.Lookup
import Honji.Proofs.Trie.LongestMatch

/-!
Seams. Where one piece of a text ends and the next begins, the text can be cut in two, and each part
is cut into the pieces that it has in the whole. A match may look at one character behind its end;
that the first part ends there has the same effect as a character that leads nowhere.
-/

namespace Honji

def Match.shift {α : Type} (offset : Nat) (piece : Match α) : Match α :=
  { piece with start := piece.start + offset }

def Event.shift {α : Type} (offset : Nat) (event : Event α) : Event α :=
  { event with start := event.start + offset, stop := event.stop + offset }

namespace Match
variable {α : Type} {head : Nat → Char → Text → Match α}

@[simp] theorem source_shift (offset : Nat) (piece : Match α) :
    (piece.shift offset).source = piece.source := rfl

theorem event?_shift (converter : Text) (offset : Nat) (piece : Match α) :
    (piece.shift offset).event? converter =
      (piece.event? converter).map (Event.shift offset) := by
  obtain ⟨token, start, source, kind⟩ := piece
  have stop : start + offset + source.length = start + source.length + offset := by omega
  cases kind <;> simp [event?, shift, Event.shift, Match.stop, stop]

/-- A place at which no piece is cut: pieces begin there, or one of them ends there. -/
def Seam (position : Nat) (pieces : List (Match α)) (place : Nat) : Prop :=
  place = position ∨ ∃ piece ∈ pieces, piece.stop = place

def Placed (head : Nat → Char → Text → Match α) : Prop :=
  ∀ offset start character rest,
    head (start + offset) character rest = (head start character rest).shift offset

/-- A piece that ends within a text is the same if the text ends earlier, but not before it does. -/
def Local (head : Nat → Char → Text → Match α) : Prop :=
  ∀ start character rest more,
    (head start character (rest ++ more)).source.length ≤ rest.length + 1 →
      head start character rest = head start character (rest ++ more)

def Barred (head : Nat → Char → Text → Match α) (text : Text) : Prop :=
  ∀ start character rest,
    (head start character (rest ++ text)).source.length ≤ rest.length + 1

theorem Placed.scan_shift (placed : Placed head) (offset skip position : Nat) (text : Text) :
    scan head skip (position + offset) text =
      (scan head skip position text).map (shift offset) := by
  induction text generalizing skip position with
  | nil => cases skip <;> rfl
  | cons character rest ih =>
      have next : position + offset + 1 = position + 1 + offset := by omega
      cases skip with
      | succ skip => rw [scan, scan, next, ih]
      | zero => rw [scan, scan, placed, next, source_shift, ih, List.map_cons]

theorem Tiles.stop_le {position place : Nat} {text : Text} {piece : Match α}
    {pieces : List (Match α)} (tiles : Tiles position text (piece :: pieces))
    (seam : Seam position (piece :: pieces) place) (later : position < place) :
    piece.stop ≤ place ∧ Seam piece.stop pieces place := by
  obtain ⟨start, -, rest, -, behind⟩ := tiles
  rcases seam with rfl | ⟨other, member, rfl⟩
  · omega
  · rcases List.mem_cons.1 member with rfl | member
    · exact ⟨Nat.le_refl _, .inl rfl⟩
    · have after : piece.stop ≤ other.start := behind.le_start member
      exact ⟨Nat.le_trans after (Nat.le_add_right _ _), .inr ⟨other, member, rfl⟩⟩

theorem head_of_seam (cuts : Cuts head) (near : Local head) {position : Nat} {character : Char}
    {rest second : Text} (seam : Seam position
      (scan head 0 position (character :: (rest ++ second))) (position + (rest.length + 1))) :
    head position character rest = head position character (rest ++ second) := by
  have tiles := scan_tiles cuts position (character :: (rest ++ second))
  rw [scan] at tiles seam
  have ends := (tiles.stop_le seam (by omega)).1
  rw [stop, (cuts position character (rest ++ second)).1] at ends
  exact near position character rest second (by omega)

section
variable {position : Nat} {character : Char} {taken later : Text}
  (start : (head position character (taken ++ later)).start = position)
  (source : (head position character (taken ++ later)).source = character :: taken)
include start source

theorem scan_cons_append {second : Text}
    (same : head position character (taken ++ later) =
      head position character (taken ++ later ++ second)) :
    scan head 0 position (character :: taken ++ later ++ second) =
      head position character (taken ++ later) ::
        scan head 0 (head position character (taken ++ later)).stop (later ++ second) := by
  rw [List.append_assoc] at same ⊢
  rw [same] at start source ⊢
  exact scan_cons start source

theorem add_length : position + (character :: taken ++ later).length =
    (head position character (taken ++ later)).stop + later.length := by
  simp only [stop, start, source, List.length_append, List.length_cons]
  omega

end

theorem scan_append (cuts : Cuts head) (near : Local head) {position : Nat} {first second : Text}
    (seam : Seam position (scan head 0 position (first ++ second)) (position + first.length)) :
    scan head 0 position (first ++ second) =
      scan head 0 position first ++ scan head 0 (position + first.length) second := by
  induction position, first using cuts.induction with
  | nil position => rfl
  | cons position character taken later start source ih =>
      have same : head position character (taken ++ later) =
          head position character (taken ++ later ++ second) :=
        head_of_seam cuts near (by simpa using seam)
      have front := scan_cons_append start source same
      have tiles := scan_tiles cuts position (character :: taken ++ later ++ second)
      rw [front] at tiles seam
      have behind := (tiles.stop_le seam (by simp)).2
      rw [add_length start source] at behind ⊢
      rw [front, scan_cons start source, ih behind, List.cons_append]

theorem Barred.seam (cuts : Cuts head) (near : Local head) {second : Text}
    (barred : Barred head second) (position : Nat) (first : Text) :
    Seam position (scan head 0 position (first ++ second)) (position + first.length) := by
  induction position, first using cuts.induction with
  | nil position => exact .inl rfl
  | cons position character taken later start source ih =>
      have same := near position character _ second (barred position character (taken ++ later))
      rw [scan_cons_append start source same, add_length start source]
      rcases ih with here | ⟨piece, member, stops⟩
      · exact .inr ⟨_, List.mem_cons_self, here.symm⟩
      · exact .inr ⟨piece, List.mem_cons_of_mem _ member, stops⟩

theorem Cuts.barred_nil (cuts : Cuts head) : Barred head [] := by
  intro start character rest
  obtain ⟨-, taken, source, beginning⟩ := cuts start character (rest ++ [])
  have short := beginning.length_le
  rw [List.append_nil] at short
  rw [source, List.length_cons]
  omega

structure Splits (cut : Text → List (Match α)) (first second : Text) : Prop where
  pieces : cut (first ++ second) = cut first ++ (cut second).map (shift first.length)
  written : ∀ write : Match α → Text,
    (∀ offset piece, write (shift offset piece) = write piece) →
      (cut (first ++ second)).flatMap write =
        (cut first).flatMap write ++ (cut second).flatMap write
  events : ∀ converter, (cut (first ++ second)).filterMap (·.event? converter) =
    (cut first).filterMap (·.event? converter) ++
      ((cut second).filterMap (·.event? converter)).map (Event.shift first.length)

theorem Splits.of_pieces {cut : Text → List (Match α)} {first second : Text}
    (pieces : cut (first ++ second) = cut first ++ (cut second).map (shift first.length)) :
    Splits cut first second where
  pieces := pieces
  written := fun write unplaced => by
    simp only [pieces, List.flatMap_append, List.flatMap_map, unplaced]
  events := fun converter => by
    simp only [pieces, List.filterMap_append, List.filterMap_map, List.map_filterMap,
      Function.comp_def, event?_shift]

theorem splits_scan (cuts : Cuts head) (near : Local head) (placed : Placed head)
    {first second : Text} (seam : Seam 0 (scan head 0 0 (first ++ second)) first.length) :
    Splits (scan head 0 0) first second := by
  rw [← Nat.zero_add first.length] at seam
  have parts := scan_append cuts near seam
  rw [placed.scan_shift] at parts
  exact .of_pieces parts

end Match

namespace Trie
variable {α : Type} {trie : Trie α}

def Opens (trie : Trie α) (character : Char) : Prop :=
  ∀ path ≠ [], trie.root.find? (path ++ [trie.normalize [character]]) = none

theorem Opens.step?_eq_none {character : Char} (opens : trie.Opens character) {taken : Text}
    (filled : taken ≠ []) {node : Node α} (reached : trie.reach? trie.root taken = some node) :
    trie.step? node [character] = none := by
  rw [← find?_ofText, find?_eq_find?_map] at reached
  have none := opens ((Path.ofText taken).map trie.normalize) (by simpa using filled)
  rw [Node.find?_append, reached, Option.bind_some, Node.find?_cons] at none
  rw [step?]
  cases led : node.child? (trie.normalize [character]) with
  | none => rfl
  | some child => simp [led] at none

section
variable [Token α]

theorem placed_headMatch (trie : Trie α) : Match.Placed trie.headMatch := by
  intro offset start character rest
  unfold headMatch
  split <;> rfl

theorem local_headMatch (trie : Trie α) : Match.Local trie.headMatch := by
  intro start character rest more short
  by_cases known : trie.step? trie.root [character] = none
  · rw [headMatch_none known, headMatch_none known]
  · obtain ⟨taken, later, node, whole, reached, halts⟩ := exists_reach (rest ++ more) known
    rw [whole, headMatch_eq reached halts, List.length_cons] at short
    obtain ⟨between, rfl⟩ : taken <+: rest :=
      List.prefix_of_prefix_length_le ⟨later, whole.symm⟩ (List.prefix_append rest more) (by omega)
    obtain rfl : between ++ more = later := by simpa using whole
    have haltsToo : trie.Halts node between := by
      cases between with
      | nil => exact halts_nil node
      | cons next between => exact halts
    rw [headMatch_eq reached haltsToo, whole, headMatch_eq reached halts]

theorem barred_headMatch {character : Char} (opens : trie.Opens character) (text : Text) :
    Match.Barred trie.headMatch (character :: text) := by
  intro start front rest
  by_cases known : trie.step? trie.root [front] = none
  · simp [headMatch_none known]
  · obtain ⟨taken, later, node, whole, reached, halts⟩ :=
      exists_reach (rest ++ character :: text) known
    rw [whole, headMatch_eq reached halts, List.length_cons]
    -- a match that goes on would reach a child by the character
    by_contra longer
    obtain ⟨more, rfl⟩ : rest ++ [character] <+: taken :=
      List.prefix_of_prefix_length_le ⟨text, by simp⟩ ⟨later, whole.symm⟩ (by simp; omega)
    rw [List.append_assoc, ← List.cons_append, reach?_append] at reached
    obtain ⟨last, led, reached⟩ := Option.bind_eq_some_iff.1 reached
    rw [List.singleton_append, reach?_cons, opens.step?_eq_none (List.cons_ne_nil _ _) led] at reached
    cases reached

theorem barred_of_head? {text : Text} (opens : ∀ character ∈ text.head?, trie.Opens character) :
    Match.Barred trie.headMatch text := by
  cases text with
  | nil => exact trie.cuts_headMatch.barred_nil
  | cons character text => exact barred_headMatch (opens character rfl) text

theorem splits_tokenize {first second : Text}
    (seam : Match.Seam 0 (trie.tokenize (first ++ second)) first.length) :
    Match.Splits trie.tokenize first second :=
  Match.splits_scan trie.cuts_headMatch trie.local_headMatch trie.placed_headMatch seam

end

end Trie
end Honji
