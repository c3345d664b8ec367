import Honji.Romanization.Rules

/-!
The rule tables for composing kana from Latin letters, as they are typed. All values are hiragana.
-/

namespace Honji

structure ComposerRules where
  vowels : Table Text Text
  consonantRows : Table Text Text
  irregularRows : Table Text (Table Text Text)
  smallKana : Table Text Text
  smallPrefixes : List Text
  contractionConsonants : Table Text Text
  contractionGlides : Table Text Text
  geminationConsonants : List Text
  longVowelMarks : Table Text Text
  longVowelSuffixes : Table Text Text
  punctuation : Table Text Text
  obsoleteKana : Table Text Text
  nasal : Text
  nasalKana : Text
  sokuon : Text
  affricateDigraph : Text
  affricatePrefix : Text
  prolongedSound : Text

namespace ComposerRules

def vowelOrder : Text := "aiueo".toList

def reversedPunctuation : Table Text Text :=
  .ofPairs ((punctuationMarks.entries.filter (·.2 != [' '])).map fun entry => (entry.2, entry.1))

def standardIrregularRows : Table Text (Table Text Text) :=
  .ofPairs
    [("y".toList, .ofStrings
        [("a", "や"), ("i", "い"), ("u", "ゆ"), ("e", "いぇ"), ("o", "よ")]),
     ("w".toList, .ofStrings
        [("a", "わ"), ("i", "うぃ"), ("u", "う"), ("e", "うぇ"), ("o", "を")]),
     ("f".toList, .ofStrings
        [("a", "ふぁ"), ("i", "ふぃ"), ("u", "ふ"), ("e", "ふぇ"), ("o", "ふぉ")]),
     ("v".toList, .ofStrings
        [("a", "ゔぁ"), ("i", "ゔぃ"), ("u", "ゔ"), ("e", "ゔぇ"), ("o", "ゔぉ")]),
     ("j".toList, .ofStrings
        [("a", "じゃ"), ("i", "じ"), ("u", "じゅ"), ("e", "じぇ"), ("o", "じょ")]),
     ("sh".toList, .ofStrings
        [("a", "しゃ"), ("i", "し"), ("u", "しゅ"), ("e", "しぇ"), ("o", "しょ")]),
     ("ch".toList, .ofStrings
        [("a", "ちゃ"), ("i", "ち"), ("u", "ちゅ"), ("e", "ちぇ"), ("o", "ちょ")]),
     ("ts".toList, .ofStrings
        [("a", "つぁ"), ("i", "つぃ"), ("u", "つ"), ("e", "つぇ"), ("o", "つぉ")])]

def standard : ComposerRules where
  vowels := .ofStrings [("a", "あ"), ("i", "い"), ("u", "う"), ("e", "え"), ("o", "お")]
  consonantRows := .ofStrings
    [("k", "かきくけこ"), ("s", "さしすせそ"), ("t", "たちつてと"), ("n", "なにぬねの"),
     ("h", "はひふへほ"), ("m", "まみむめも"), ("r", "らりるれろ"), ("g", "がぎぐげご"),
     ("z", "ざじずぜぞ"), ("d", "だぢづでど"), ("b", "ばびぶべぼ"), ("p", "ぱぴぷぺぽ")]
  irregularRows := standardIrregularRows
  smallKana := .ofStrings
    [("a", "ぁ"), ("i", "ぃ"), ("u", "ぅ"), ("e", "ぇ"), ("o", "ぉ"), ("ya", "ゃ"), ("yu", "ゅ"),
     ("yo", "ょ"), ("tu", "っ"), ("tsu", "っ"), ("wa", "ゎ"), ("ka", "ゕ"), ("ke", "ゖ"),
     ("n", "ん")]
  smallPrefixes := ["x".toList, "l".toList]
  contractionConsonants := .ofStrings
    [("k", "き"), ("s", "し"), ("t", "ち"), ("n", "に"), ("h", "ひ"), ("m", "み"), ("r", "り"),
     ("g", "ぎ"), ("z", "じ"), ("d", "ぢ"), ("b", "び"), ("p", "ぴ"), ("v", "ゔ"), ("q", "く"),
     ("f", "ふ"), ("j", "じ"), ("c", "ち")]
  contractionGlides := .ofStrings
    [("a", "ゃ"), ("i", "ぃ"), ("u", "ゅ"), ("e", "ぇ"), ("o", "ょ")]
  geminationConsonants := "ksthmyrwgzdbpfvjq".toList.map fun letter => [letter]
  longVowelMarks := .ofStrings
    [("ā", "a"), ("ī", "i"), ("ū", "u"), ("ē", "e"), ("ō", "o"),
     ("â", "a"), ("î", "i"), ("û", "u"), ("ê", "e"), ("ô", "o")]
  longVowelSuffixes := .ofStrings [("a", "あ"), ("i", "い"), ("u", "う"), ("e", "え"), ("o", "う")]
  punctuation := reversedPunctuation
  obsoleteKana := .ofStrings [("wi", "ゐ"), ("we", "ゑ")]
  nasal := "n".toList
  nasalKana := "ん".toList
  sokuon := "っ".toList
  affricateDigraph := "ch".toList
  affricatePrefix := "t".toList
  prolongedSound := "ー".toList

end ComposerRules
end Honji
