import Honji.Text.Basic

/-!
The characters of Japanese writing, and the shift between the two kana scripts: each hiragana
letter has a katakana letter at one fixed distance.
-/

namespace Honji
namespace Kana

/-- The distance from a hiragana letter to its katakana letter. -/
def shift : Nat := 0x60

def prolongedSound : Char := 'ー'

def isHiraganaLetter (character : Char) : Bool :=
  0x3041 ≤ character.toNat && character.toNat ≤ 0x3096

def isKatakanaLetter (character : Char) : Bool :=
  0x3041 + shift ≤ character.toNat && character.toNat ≤ 0x3096 + shift

def katakanaOf (character : Char) : Char :=
  if isHiraganaLetter character then Char.ofNat (character.toNat + shift) else character

def hiraganaOf (character : Char) : Char :=
  if isKatakanaLetter character then Char.ofNat (character.toNat - shift) else character

def toKatakana (text : Text) : Text :=
  text.map katakanaOf

def toHiragana (text : Text) : Text :=
  text.map hiraganaOf

end Kana

inductive Script where
  | hiragana
  | katakana
  deriving DecidableEq

/-- A text of hiragana rules as it stands in a script. -/
def Script.write : Script → Text → Text
  | .hiragana, text => text
  | .katakana, text => Kana.toKatakana text

inductive CharacterClass where
  | hiragana
  | katakana
  | kana
  | kanji
  | romaji
  | japanesePunctuation
  deriving DecidableEq

namespace CharacterClass

def all : List CharacterClass :=
  [.hiragana, .katakana, .kana, .kanji, .romaji, .japanesePunctuation]

def name : CharacterClass → Text
  | .hiragana => "hiragana".toList
  | .katakana => "katakana".toList
  | .kana => "kana".toList
  | .kanji => "kanji".toList
  | .romaji => "romaji".toList
  | .japanesePunctuation => "japanese_punctuation".toList

def romajiRanges : List (Nat × Nat) :=
  [(0x0000, 0x007F), (0x0100, 0x0101), (0x0112, 0x0113), (0x012A, 0x012B), (0x014C, 0x014D),
   (0x016A, 0x016B), (0x2018, 0x2019), (0x201C, 0x201D)]

def romajiExtras : List Char :=
  ['â', 'î', 'û', 'ê', 'ô', 'Â', 'Î', 'Û', 'Ê', 'Ô']

def punctuationRanges : List (Nat × Nat) :=
  [(0x3000, 0x303F), (0x30FB, 0x30FB), (0xFF01, 0xFF0F), (0xFF1A, 0xFF1F), (0xFF3B, 0xFF3F),
   (0xFF5B, 0xFF60), (0xFFE0, 0xFFEE)]

def inRanges (ranges : List (Nat × Nat)) (code : Nat) : Bool :=
  ranges.any fun range => range.1 ≤ code && code ≤ range.2

/-- Whether a character belongs to a class. The sign of a long vowel belongs to both scripts. -/
def holds : CharacterClass → Char → Bool
  | .hiragana, character => Kana.isHiraganaLetter character || character == Kana.prolongedSound
  | .katakana, character => 0x30A1 ≤ character.toNat && character.toNat ≤ 0x30FC
  | .kana, character =>
      Kana.isHiraganaLetter character || character == Kana.prolongedSound ||
        (0x30A1 ≤ character.toNat && character.toNat ≤ 0x30FC)
  | .kanji, character => 0x4E00 ≤ character.toNat && character.toNat ≤ 0x9FAF
  | .romaji, character => romajiExtras.contains character || inRanges romajiRanges character.toNat
  | .japanesePunctuation, character => inRanges punctuationRanges character.toNat

def holdsOne (kind : CharacterClass) : Text → Bool
  | [character] => kind.holds character
  | _ => false

def holdsAll (kind : CharacterClass) (text : Text) : Bool :=
  !text.isEmpty && text.all kind.holds

end CharacterClass
end Honji
