import Honji.Text.CaseTable

/-!
Capital and small letters. A text is made capital letter by letter; it is made small letter by
letter as well, but for the sigma, which has a form of its own at the end of a word.
-/

namespace Honji.Text
open CaseTable

def capitalForm (character : Char) : Text :=
  match longCapital.lookup character.toNat with
  | some codes => ofCodes codes
  | none => [shiftBy toCapital character]

def smallForm (character : Char) : Text :=
  match longSmall.lookup character.toNat with
  | some codes => ofCodes codes
  | none => [shiftBy toSmall character]

def upper (text : Text) : Text :=
  text.flatMap capitalForm

/-- Whether a word goes on at the near end of a text: its first noticed character is a letter. -/
def reachesWord (text : Text) : Bool :=
  match text.find? (!inSpans unnoticed ·) with
  | some character => inSpans letters character
  | none => false

/-- The small form of a text that stands after `before`, which is given from its end. -/
def lowerAfter (before : Text) : Text → Text
  | [] => []
  | character :: rest =>
      (if character = 'Σ' then
        [if reachesWord before && !reachesWord rest then 'ς' else 'σ']
      else smallForm character) ++ lowerAfter (character :: before) rest

def lower (text : Text) : Text :=
  lowerAfter [] text

def isUpper (text : Text) : Bool :=
  text.any (inSpans capitals) &&
    text.all fun character => !inSpans smalls character && !inSpans titles character

@[simp] theorem upper_nil : upper [] = [] := rfl

@[simp] theorem upper_append (first second : Text) :
    upper (first ++ second) = upper first ++ upper second := by
  simp [upper]

theorem lower_singleton (character : Char) :
    lower [character] = if character = 'Σ' then ['σ'] else smallForm character := by
  by_cases sigma : character = 'Σ' <;> simp [lower, lowerAfter, reachesWord, sigma]

end Honji.Text
