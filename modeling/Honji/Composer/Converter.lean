import Honji.Composer.Stages
import Honji.Report

/-!
Conversion of Latin letters to kana: letters typed in capitals become katakana, others hiragana.
-/

namespace Honji

structure Composer where
  rules : ComposerRuleSet
  hiragana : Trie Text
  katakana : Trie Text
  customized : Bool

namespace Composer

def name : Text := "kana".toList

def creation : Text := "kana.__init__".toList

def create (rules : ComposerRuleSet) (mapping : Option (Mapping Text)) :
    Except Failure Composer := do
  let hiragana ← rules.hiragana.overlay Resolver.ruled mapping
  let katakana ← rules.katakana.overlay Resolver.ruled mapping
  return ⟨rules, hiragana.freeze, katakana.freeze, mapping.isSome⟩

/--
The piece that begins with a character. It is matched in hiragana first; if what it consumed is in
capitals it is matched in katakana.
-/
def headMatch (hiragana katakana : Trie Text) (start : Nat) (character : Char) (rest : Text) :
    Match Text :=
  let piece := hiragana.headMatch start character rest
  if piece.source.isUpper then katakana.headMatch start character rest else piece

def tokenize (hiragana katakana : Trie Text) (text : Text) : List (Match Text) :=
  Match.scan (headMatch hiragana katakana) 0 0 text

def pieces (composer : Composer) (mapping : Option (Mapping Text)) (text : Text) :
    Except Failure (List (Match Text)) :=
  if text.isEmpty then .ok []
  else do
    let hiragana ← composer.hiragana.overlay Resolver.ruled mapping
    let katakana ← composer.katakana.overlay Resolver.ruled mapping
    return tokenize hiragana katakana text

/-- The conversion of a text. Nothing is timed if the rules for the call cannot be used. -/
def convert (composer : Composer) (text : Text) (mapping : Option (Mapping Text)) : Report :=
  if text.isEmpty then .blank
  else match composer.pieces mapping text with
    | .error failure => ⟨.error failure, []⟩
    | .ok pieces => .ofPieces name "kana.convert".toList pieces Match.token

end Composer
end Honji
