import Honji.Report
import Honji.Romanization.Stages
import Honji.Trie.Pieces

/-!
Conversion of kana to Latin letters.
-/

namespace Honji

structure Romanizer where
  rules : RuleSet
  active : Trie Text
  customized : Bool
  upcaseKatakana : Choice

namespace Romanizer

def nameOf (method : Method) : Text :=
  "romaji.".toList ++ method.name

def name (romanizer : Romanizer) : Text :=
  nameOf romanizer.rules.method

def creation (method : Method) : Text :=
  nameOf method ++ ".__init__".toList

def create (rules : RuleSet) (upcaseKatakana : Choice) (mapping : Option (Mapping Text)) :
    Except Failure Romanizer := do
  let active ← rules.trie.overlay Resolver.ruled mapping
  return ⟨rules, active.freeze, mapping.isSome, upcaseKatakana⟩

def capitalized (piece : Match Text) : Text :=
  if CharacterClass.katakana.holdsAll piece.source then piece.token.upper else piece.token

def capitalizes (romanizer : Romanizer) (choice : Choice) : Bool :=
  Choice.taken (choice.or romanizer.upcaseKatakana) && romanizer.rules.upcaseKatakana.taken

def pieces (romanizer : Romanizer) (mapping : Option (Mapping Text)) (text : Text) :
    Except Failure (List (Match Text)) :=
  romanizer.active.pieces Resolver.ruled mapping text

/-- The conversion of a text. It is timed even if the rules for the call cannot be used. -/
def convert (romanizer : Romanizer) (text : Text) (choice : Choice)
    (mapping : Option (Mapping Text)) : Report :=
  if text.isEmpty then .blank
  else
    let operation := romanizer.name ++ ".convert".toList
    match romanizer.pieces mapping text with
    | .error failure => ⟨.error failure, [.timed operation]⟩
    | .ok pieces =>
        .ofPieces romanizer.name operation pieces
          (if romanizer.capitalizes choice then capitalized else Match.token)

end Romanizer
end Honji
