import Honji.Failure
import Honji.Text.Blank
import Honji.Text.Case

/-!
The methods of romanization and how callers name them.
-/

namespace Honji

inductive Method where
  | hepburn
  | modifiedHepburn
  | kunrei
  | nihon
  | wapuro
  deriving DecidableEq

namespace Method

def all : List Method :=
  [.hepburn, .modifiedHepburn, .kunrei, .nihon, .wapuro]

def name : Method → Text
  | .hepburn => "hepburn".toList
  | .modifiedHepburn => "modified_hepburn".toList
  | .kunrei => "kunrei".toList
  | .nihon => "nihon".toList
  | .wapuro => "wapuro".toList

def underscored (character : Char) : Char :=
  if character = '-' ∨ character = ' ' then '_' else character

/-- The method that a value names: case, outer white space and the kind of joint do not matter. -/
def parse (value : Datum) : Except Failure Method :=
  let named := match value with
    | .text given =>
        let wanted := (given.strip).lower.map underscored
        all.find? (·.name == wanted)
    | _ => none
  match named with
  | some method => .ok method
  | none => .error (.unsupportedMethod value (all.map name))

end Method
end Honji
