import Honji.Text.Digit

/-!
The clock of a journal, and texts made independent of it: a moment or a duration in a text has a
shape by which it is known, so that it can be put aside when lines of two runs are compared.
-/

namespace Honji

structure Clock where
  moment : Text
  duration : Text

namespace Clock

/--
What is left of a text after a shape at its start. In a shape `0` stands for a digit, `9` for a run
of digits, and any other character for itself.
-/
def restAfter : Text → Text → Option Text
  | [], rest => some rest
  | _ :: _, [] => none
  | mark :: shape, character :: rest =>
      if mark = '9' ∧ Text.isDigit character then restAfter shape (rest.dropWhile Text.isDigit)
      else if mark = character ∨ mark = '0' ∧ Text.isDigit character then restAfter shape rest
      else none

def momentShape : Text := "0000-00-00 00:00:00,000".toList

def durationShape : Text := "9.00ms".toList

def reading? (clock : Clock) (text : Text) : Option (Text × Text) :=
  match restAfter momentShape text with
  | some rest => some (clock.moment, rest)
  | none => (restAfter durationShape text).map fun rest => (clock.duration, rest)

/-- Sets a text by a clock; `skip` characters belong to a moment or a duration already set. -/
def setFrom (clock : Clock) : Nat → Text → Text
  | _, [] => []
  | skip + 1, _ :: rest => clock.setFrom skip rest
  | 0, character :: rest =>
      match clock.reading? (character :: rest) with
      | some (reading, left) => reading ++ clock.setFrom (rest.length - left.length) rest
      | none => character :: clock.setFrom 0 rest

def set (clock : Clock) (text : Text) : Text :=
  clock.setFrom 0 text

end Clock
end Honji
