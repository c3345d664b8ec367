import Honji.Text.Unprintable

/-!
The quoted form in which messages show a text: quote marks around it, and an escape for the mark
itself, for the backslash and for every character that cannot be seen.
-/

namespace Honji.Text

def singleQuote : Char := Char.ofNat 0x27

def doubleQuote : Char := Char.ofNat 0x22

def quoteMark (text : Text) : Char :=
  if text.contains singleQuote && !text.contains doubleQuote then doubleQuote else singleQuote

def hexadecimal (width number : Nat) : Text :=
  let digits := Nat.toDigits 16 number
  List.replicate (width - digits.length) '0' ++ digits

/-- The escape of a character that cannot be seen: the shortest of three widths that fits. -/
def codeEscape (code : Nat) : Text :=
  if code ≤ 0xFF then '\\' :: 'x' :: hexadecimal 2 code
  else if code ≤ 0xFFFF then '\\' :: 'u' :: hexadecimal 4 code
  else '\\' :: 'U' :: hexadecimal 8 code

def escaped (mark character : Char) : Text :=
  if character = mark ∨ character = '\\' then ['\\', character]
  else if character = '\n' then ['\\', 'n']
  else if character = '\r' then ['\\', 'r']
  else if character = '\t' then ['\\', 't']
  else if inSpans unprintable character then codeEscape character.toNat
  else [character]

def quoted (text : Text) : Text :=
  let mark := quoteMark text
  mark :: text.flatMap (escaped mark) ++ [mark]

end Honji.Text
