import Honji.Failure
import Honji.Text.Composed

/-!
The ways to write a vowel that is prolonged.
-/

namespace Honji

inductive LongVowel where
  | doubled
  | hyphenated
  | macron
  deriving DecidableEq

namespace LongVowel

def all : List LongVowel :=
  [.doubled, .hyphenated, .macron]

def name : LongVowel → Text
  | .doubled => "double_final_vowel".toList
  | .hyphenated => "append_hyphen".toList
  | .macron => "compose_macron".toList

def macronMark : Char := Char.ofNat 0x304

/-- The token with its last vowel prolonged; only a hyphen can follow an empty token. -/
def apply (way : LongVowel) (token : Text) : Except Failure Text :=
  match way, token.getLast? with
  | .hyphenated, _ => .ok (token ++ ['-'])
  | .doubled, some last => .ok (token ++ [last])
  | .macron, some last => .ok (token.dropLast ++ Text.composed [last, macronMark])
  | _, none => .error .pastTheEnd

end LongVowel
end Honji
