import Honji.Romanization.LongVowel
import Honji.Romanization.Method
import Honji.Table

/-!
The rule tables of the romanization methods. All keys are hiragana; the rules for katakana follow
from them by the shift between the scripts.
-/

namespace Honji

def Table.ofStrings (pairs : List (String × String)) : Table Text Text :=
  .ofPairs (pairs.map fun pair => (pair.1.toList, pair.2.toList))

def Table.withStrings (table : Table Text Text) (pairs : List (String × String)) :
    Table Text Text :=
  table.putAll (pairs.map fun pair => (pair.1.toList, pair.2.toList))

def punctuationMarks : Table Text Text :=
  .ofStrings
    [("。", "."), ("、", ","), ("：", ":"), ("・", "/"), ("！", "!"), ("？", "?"), ("〜", "~"),
     ("ー", "-"), ("「", "‘"), ("」", "’"), ("『", "“"), ("』", "”"), ("［", "["), ("］", "]"),
     ("（", "("), ("）", ")"), ("｛", "\x7b"), ("｝", "\x7d"), ("\u3000", " ")]

structure RomanizationRules where
  method : Method
  syllabary : Table Text Text
  contractions : Table Text (List Text)
  longVowel : LongVowel
  nasalFollowers : Table Text Text
  geminationExclusions : List Text
  affricateDigraph : Text
  affricateSubstitute : Text
  punctuation : Table Text Text
  upcaseKatakana : Choice

namespace RomanizationRules

def glides : List Text :=
  ["ゃ".toList, "ゅ".toList, "ょ".toList]

def nasal : Text := "ん".toList

def smallTsu : Text := "っ".toList

def prolongedSound : Text := "ー".toList

def hepburnSyllabary : Table Text Text :=
  .ofStrings
    [("あ", "a"), ("い", "i"), ("う", "u"), ("え", "e"), ("お", "o"),
     ("か", "ka"), ("き", "ki"), ("く", "ku"), ("け", "ke"), ("こ", "ko"),
     ("さ", "sa"), ("し", "shi"), ("す", "su"), ("せ", "se"), ("そ", "so"),
     ("た", "ta"), ("ち", "chi"), ("つ", "tsu"), ("て", "te"), ("と", "to"),
     ("な", "na"), ("に", "ni"), ("ぬ", "nu"), ("ね", "ne"), ("の", "no"),
     ("は", "ha"), ("ひ", "hi"), ("ふ", "fu"), ("へ", "he"), ("ほ", "ho"),
     ("ま", "ma"), ("み", "mi"), ("む", "mu"), ("め", "me"), ("も", "mo"),
     ("や", "ya"), ("ゆ", "yu"), ("よ", "yo"),
     ("ら", "ra"), ("り", "ri"), ("る", "ru"), ("れ", "re"), ("ろ", "ro"),
     ("わ", "wa"), ("を", "wo"), ("ん", "n"),
     ("が", "ga"), ("ぎ", "gi"), ("ぐ", "gu"), ("げ", "ge"), ("ご", "go"),
     ("ざ", "za"), ("じ", "ji"), ("ず", "zu"), ("ぜ", "ze"), ("ぞ", "zo"),
     ("だ", "da"), ("ぢ", "ji"), ("づ", "zu"), ("で", "de"), ("ど", "do"),
     ("ば", "ba"), ("び", "bi"), ("ぶ", "bu"), ("べ", "be"), ("ぼ", "bo"),
     ("ぱ", "pa"), ("ぴ", "pi"), ("ぷ", "pu"), ("ぺ", "pe"), ("ぽ", "po"),
     ("ぁ", "a"), ("ぃ", "i"), ("ぅ", "u"), ("ぇ", "e"), ("ぉ", "o"),
     ("ゃ", "ya"), ("ゅ", "yu"), ("ょ", "yo")]

def kunreiSyllabary : Table Text Text :=
  hepburnSyllabary.withStrings
    [("し", "si"), ("ち", "ti"), ("つ", "tu"), ("ふ", "hu"), ("じ", "zi"), ("ぢ", "zi"),
     ("づ", "zu"), ("を", "o")]

def nihonSyllabary : Table Text Text :=
  kunreiSyllabary.withStrings [("ぢ", "di"), ("づ", "du"), ("を", "wo")]

def regularEndings : List Text :=
  ["ya".toList, "yu".toList, "yo".toList]

def regular (kana : String) : List (Text × List Text) :=
  kana.toList.map fun letter => ([letter], regularEndings)

def hepburnContractions : Table Text (List Text) :=
  let hushing := ["ha".toList, "hu".toList, "ho".toList]
  let voiced := ["a".toList, "u".toList, "o".toList]
  .ofPairs (regular "きにひみりぎびぴ" ++
    [("し".toList, hushing), ("ち".toList, hushing), ("じ".toList, voiced), ("ぢ".toList, voiced)])

def regularContractions : Table Text (List Text) :=
  .ofPairs (regular "きにひみりぎびぴしちじぢ")

def standardNasalFollowers : Table Text Text :=
  .ofStrings
    [("や", "ya"), ("ゆ", "yu"), ("よ", "yo"), ("あ", "a"), ("い", "i"), ("う", "u"), ("え", "e"),
     ("お", "o")]

def standardGeminationExclusions : List Text :=
  "あいうえおやゆよんぁぃぅぇぉゃゅょっ".toList.map fun letter => [letter]

def standard (method : Method) (syllabary : Table Text Text)
    (contractions : Table Text (List Text)) (longVowel : LongVowel) : RomanizationRules where
  method := method
  syllabary := syllabary
  contractions := contractions
  longVowel := longVowel
  nasalFollowers := standardNasalFollowers
  geminationExclusions := standardGeminationExclusions
  affricateDigraph := "ch".toList
  affricateSubstitute := "t".toList
  punctuation := punctuationMarks
  upcaseKatakana := true

def ofMethod : Method → RomanizationRules
  | .hepburn => standard .hepburn hepburnSyllabary hepburnContractions .doubled
  | .modifiedHepburn => standard .modifiedHepburn hepburnSyllabary hepburnContractions .macron
  | .kunrei => standard .kunrei kunreiSyllabary regularContractions .doubled
  | .nihon => standard .nihon nihonSyllabary regularContractions .doubled
  | .wapuro => standard .wapuro hepburnSyllabary hepburnContractions .hyphenated

end RomanizationRules
end Honji
