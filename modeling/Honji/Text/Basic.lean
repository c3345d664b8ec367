/-!
Texts as sequences of characters, and the paths that lead through a tree of symbols.
-/

namespace Honji

/-- A text; its positions and its length count characters. -/
abbrev Text := List Char

/-- One step of a path. Most symbols are a single character, but any text may serve as one. -/
abbrev Symbol := Text

instance : LawfulBEq Symbol :=
  inferInstanceAs (LawfulBEq (List Char))

abbrev Path := List Symbol

def Path.ofText (text : Text) : Path :=
  text.map fun character => [character]

def Path.joined (path : Path) : Text :=
  path.flatten

/-- A text, or the stand-in for the root where the text is empty. -/
def Text.orRoot (text : Text) : Text :=
  if text.isEmpty then "<root>".toList else text

def Text.ofNat (number : Nat) : Text :=
  Nat.toDigits 10 number

def Text.ofInt : Int → Text
  | .ofNat number => Text.ofNat number
  | .negSucc number => '-' :: Text.ofNat (number + 1)

@[simp] theorem Path.joined_ofText (text : Text) : (Path.ofText text).joined = text := by
  induction text with
  | nil => rfl
  | cons character rest ih => simpa [Path.ofText, Path.joined] using ih

end Honji
