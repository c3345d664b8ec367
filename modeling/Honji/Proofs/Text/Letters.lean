import Honji.Proofs.Trie.Greedy
import Honji.Text.Case

/-!
The small letters that syllables are typed with, and their capitals. A trie that ignores case takes
a text of such letters in capitals as it takes the text itself.
-/

namespace Honji
namespace Text

def smallLetters : List Char :=
  "abcdefghijklmnopqrstuvwxyzāīūēō".toList

def isWord : Text → Bool
  | [] => false
  | letter :: rest => smallLetters.contains letter &&
      rest.all fun character => character == '\'' || smallLetters.contains character

def capitalOf (character : Char) : Char :=
  (capitalForm character).headD character

theorem smallLetters_cases : ∀ letter ∈ smallLetters,
    capitalForm letter = [capitalOf letter] ∧ lower [capitalOf letter] = lower [letter] ∧
      inSpans CaseTable.capitals (capitalOf letter) = true ∧
      inSpans CaseTable.smalls (capitalOf letter) = false ∧
      inSpans CaseTable.titles (capitalOf letter) = false ∧
      inSpans CaseTable.smalls letter = true :=
  -- the letters alone are gone through, not all characters
  @of_decide_eq_true _ (List.decidableBAll _ _) (by decide +kernel)

theorem apostrophe_cases : capitalForm '\'' = ['\''] ∧
    inSpans CaseTable.smalls '\'' = false ∧ inSpans CaseTable.titles '\'' = false := by
  decide +kernel

theorem isWord_cons {letter : Char} {rest : Text} (word : isWord (letter :: rest) = true) :
    letter ∈ smallLetters ∧ ∀ character ∈ rest, character = '\'' ∨ character ∈ smallLetters := by
  simpa [isWord, List.contains_iff_mem] using word

theorem capital_of_isWord {word : Text} (typed : isWord word = true) {character : Char}
    (member : character ∈ word) :
    ∃ capital, capitalForm character = [capital] ∧ lower [capital] = lower [character] ∧
      inSpans CaseTable.smalls capital = false ∧ inSpans CaseTable.titles capital = false := by
  have cases_ : character = '\'' ∨ character ∈ smallLetters := by
    cases word with
    | nil => simp at member
    | cons letter rest =>
        obtain ⟨first, others⟩ := isWord_cons typed
        rcases List.mem_cons.1 member with rfl | member
        · exact .inr first
        · exact others character member
  rcases cases_ with rfl | small
  · obtain ⟨form, notSmall, notTitle⟩ := apostrophe_cases
    exact ⟨'\'', form, rfl, notSmall, notTitle⟩
  · obtain ⟨form, found, -, notSmall, notTitle, -⟩ := smallLetters_cases character small
    exact ⟨capitalOf character, form, found, notSmall, notTitle⟩

theorem isUpper_of_isWord {word : Text} (typed : isWord word = true) : word.isUpper = false := by
  cases word with
  | nil => rfl
  | cons letter rest =>
      obtain ⟨-, -, -, -, -, small⟩ := smallLetters_cases letter (isWord_cons typed).1
      simp [isUpper, small]

theorem isUpper_upper {word : Text} (typed : isWord word = true) :
    (upper word).isUpper = true := by
  rw [isUpper, Bool.and_eq_true, List.any_eq_true, List.all_eq_true]
  constructor
  · cases word with
    | nil => simp [isWord] at typed
    | cons letter rest =>
        obtain ⟨form, -, capital, -⟩ := smallLetters_cases letter (isWord_cons typed).1
        exact ⟨capitalOf letter, by simp [upper, form], capital⟩
  · intro capital member
    obtain ⟨character, inside, written⟩ := List.mem_flatMap.1 member
    obtain ⟨one, form, -, notSmall, notTitle⟩ := capital_of_isWord typed inside
    rw [form, List.mem_singleton] at written
    simp [written, notSmall, notTitle]

end Text

namespace Trie
variable {α : Type} {trie : Trie α}

theorem reach?_upper (ignores : trie.caseInsensitive = true) (node : Node α) {text : Text}
    (capitals : ∀ character ∈ text, ∃ capital, Text.capitalForm character = [capital] ∧
      Text.lower [capital] = Text.lower [character]) :
    trie.reach? node text.upper = trie.reach? node text := by
  induction text generalizing node with
  | nil => rfl
  | cons character text ih =>
      obtain ⟨capital, form, found⟩ := capitals character (by simp)
      have led (node : Node α) : trie.step? node [capital] = trie.step? node [character] := by
        simp [step?, normalize, ignores, found]
      have shifted : Text.upper (character :: text) = capital :: Text.upper text := by
        simp [Text.upper, form]
      rw [shifted, reach?_cons, reach?_cons, led]
      cases trie.step? node [character] with
      | none => rfl
      | some child => exact ih child fun next member => capitals next (by simp [member])

end Trie
end Honji
