import Honji.Trie.Match

/-!
What a conversion tells besides its result: the pieces for which there was no rule, and the
operations whose time was taken, in the order in which they came to an end.
-/

namespace Honji

/-- Something that is told while a conversion runs. -/
inductive Notice where
  | unruled (event : Event Text)
  | timed (operation : Text)
  deriving DecidableEq

structure Report where
  outcome : Except Failure Text
  notices : List Notice

namespace Report

/-- The conversion of nothing, which tells nothing. -/
def blank : Report :=
  ⟨.ok [], []⟩

def events (report : Report) : List (Event Text) :=
  report.notices.filterMap fun
    | .unruled event => some event
    | .timed _ => none

def timings (report : Report) : List Text :=
  report.notices.filterMap fun
    | .unruled _ => none
    | .timed operation => some operation

def ofPieces (converter operation : Text) (pieces : List (Match Text))
    (written : Match Text → Text) : Report :=
  ⟨.ok (pieces.flatMap written),
    pieces.filterMap (fun piece => (piece.event? converter).map .unruled) ++ [.timed operation]⟩

end Report
end Honji
