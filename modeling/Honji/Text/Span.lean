import Honji.Text.Basic

/-!
Sets and maps of code points given by runs: a run names its first and last member and the distance
between neighbours.
-/

namespace Honji.Text

structure CodeSpan where
  first : Nat
  last : Nat
  step : Nat
  deriving DecidableEq

def CodeSpan.contains (span : CodeSpan) (code : Nat) : Bool :=
  span.first ≤ code && code ≤ span.last && (code - span.first) % span.step == 0

/-- A run whose members all move by one distance. -/
structure CodeShift where
  span : CodeSpan
  distance : Int
  deriving DecidableEq

/--
The entry whose run contains a code point. The runs stand in ascending order, so the search ends
at the first run that lies behind the code point.
-/
def findSpan {α : Type} (spanOf : α → CodeSpan) (code : Nat) : List α → Option α
  | [] => none
  | entry :: rest =>
      if code < (spanOf entry).first then none
      else if (spanOf entry).contains code then some entry
      else findSpan spanOf code rest

def inSpans (spans : List CodeSpan) (character : Char) : Bool :=
  (findSpan id character.toNat spans).isSome

def shiftBy (shifts : List CodeShift) (character : Char) : Char :=
  match findSpan CodeShift.span character.toNat shifts with
  | some shift => Char.ofNat (character.toNat + shift.distance).toNat
  | none => character

def ofCodes (codes : List Nat) : Text :=
  codes.map Char.ofNat

end Honji.Text
