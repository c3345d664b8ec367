import Honji.Text.CompositionTable

/-!
The composed form of a text: every character is taken apart, the marks after each letter are put
into the order of their classes, and neighbours are joined again wherever one character stands for
both.
-/

namespace Honji.Text
open CompositionTable

def markClass (code : Nat) : Nat :=
  match findSpan Prod.fst code markClasses with
  | some entry => entry.2
  | none => 0

def syllableParts (code : Nat) : List Nat :=
  let index := code - 0xAC00
  let stem := [0x1100 + index / 588, 0x1161 + index % 588 / 28]
  if index % 28 = 0 then stem else stem ++ [0x11A7 + index % 28]

def decompose (code : Nat) : List Nat :=
  if 0xAC00 ≤ code ∧ code ≤ 0xD7A3 then syllableParts code
  else match parts.lookup code with
    | some codes => codes
    | none => match aliases.lookup code with
      | some other => [other]
      | none => [code]

/-- Puts a code before a sequence, after the marks that belong before it. -/
def insertMark (code : Nat) : List Nat → List Nat
  | [] => [code]
  | next :: rest =>
      if 0 < markClass next ∧ markClass next < markClass code then next :: insertMark code rest
      else code :: next :: rest

def orderMarks (codes : List Nat) : List Nat :=
  codes.foldr insertMark []

def composeSyllable (first second : Nat) : Option Nat :=
  if 0x1100 ≤ first ∧ first ≤ 0x1112 ∧ 0x1161 ≤ second ∧ second ≤ 0x1175 then
    some (0xAC00 + ((first - 0x1100) * 21 + (second - 0x1161)) * 28)
  else if 0xAC00 ≤ first ∧ first ≤ 0xD7A3 ∧ (first - 0xAC00) % 28 = 0 ∧
      0x11A8 ≤ second ∧ second ≤ 0x11C2 then
    some (first + (second - 0x11A7))
  else none

def composePair (first second : Nat) : Option Nat :=
  match composeSyllable first second with
  | some code => some code
  | none => (pairs.find? fun entry => entry.1 == first && entry.2.1 == second).map (·.2.2)

/--
Joins codes to the letter before them. The marks that were not joined are given from the last one;
a mark joins only if its class is above the class of the mark before it.
-/
def composeAfter (letter : Nat) (marks : List Nat) : List Nat → List Nat
  | [] => letter :: marks.reverse
  | code :: rest =>
      let blocked := match marks with
        | [] => false
        | mark :: _ => markClass code ≤ markClass mark
      match (if blocked then none else composePair letter code) with
      | some joined => composeAfter joined marks rest
      | none =>
          if markClass code = 0 then letter :: marks.reverse ++ composeAfter code [] rest
          else composeAfter letter (code :: marks) rest

def compose : List Nat → List Nat
  | [] => []
  | code :: rest => composeAfter code [] rest

def composed (text : Text) : Text :=
  ofCodes (compose (orderMarks (text.flatMap fun character => decompose character.toNat)))

end Honji.Text
