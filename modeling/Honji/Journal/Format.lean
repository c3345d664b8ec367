import Honji.Text.Digit
import Honji.Text.Word

/-!
The format of a line: text that stands as it is, and marks in it for what belongs to a message. A
mark begins with a percent sign, and two percent signs stand for one. A format is usable if a field
is shown anywhere in it, even one whose percent sign belongs to the percent sign before it.
-/

namespace Honji

inductive FormatPart where
  | literal (character : Char)
  | time
  | level
  | channel
  | message
  | broken
  deriving DecidableEq

namespace FormatPart

def marks : List (Text × FormatPart) :=
  [("%(asctime)s".toList, .time), ("%(levelname)s".toList, .level),
   ("%(name)s".toList, .channel), ("%(message)s".toList, .message),
   ("%%".toList, .literal '%'), ("%".toList, .broken)]

def parseFrom : Nat → Text → List FormatPart
  | _, [] => []
  | skip + 1, _ :: rest => parseFrom skip rest
  | 0, character :: rest =>
      match marks.find? (·.1.isPrefixOf (character :: rest)) with
      | some (mark, part) => part :: parseFrom (mark.length - 1) rest
      | none => .literal character :: parseFrom 0 rest

def parse (format : Text) : List FormatPart :=
  parseFrom 0 format

def standard : Text := "%(asctime)s [%(levelname)s] %(name)s: %(message)s".toList

def bare : Text := "%(message)s".toList

def afterSize : Text → Text
  | '*' :: rest => rest
  | text => text.dropWhile Text.isDigit

def afterLayout (text : Text) : Text :=
  match afterSize (text.dropWhile "#0+- ".toList.contains) with
  | '.' :: rest => if afterSize rest = rest then '.' :: rest else afterSize rest
  | rest => rest

/--
The letters that say how a field is written, whatever their case, and the percent sign, which
counts as one. The i without a dot, the I with a dot and the long s are cases of i and s.
-/
def conversions : List Char := "diouxefgcrsaDIOUXEFGCRSAıİſ%".toList

def beginsWithField : Text → Bool
  | '%' :: '(' :: rest =>
      match rest.dropWhile Text.isWordCharacter with
      | ')' :: layout =>
          rest.head?.any Text.isWordCharacter &&
            (afterLayout layout).head?.any conversions.contains
      | _ => false
  | _ => false

def showsField : Text → Bool
  | [] => false
  | character :: rest => beginsWithField (character :: rest) || showsField rest

end FormatPart
end Honji
