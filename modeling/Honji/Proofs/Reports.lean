import Honji.Proofs.Trie.SideBySide
import Honji.Report

/-!
What reports tell of the pieces of a text. Where the events stand depends on where the pieces stand
and on how they were matched, and on nothing else.
-/

namespace Honji

def Event.place {α : Type} (event : Event α) : MatchKind × Nat × Nat :=
  (event.kind, event.start, event.stop)

def Match.reportedAt? : Nat × Nat × MatchKind → Option (MatchKind × Nat × Nat)
  | (_, _, .terminal) => none
  | (start, stop, kind) => some (kind, start, stop)

theorem Match.place_event? {α : Type} (converter : Text) (piece : Match α) :
    (piece.event? converter).map Event.place = reportedAt? piece.place := by
  obtain ⟨token, start, source, kind⟩ := piece
  cases kind <;> rfl

namespace Report

theorem events_ofPieces (converter operation : Text) (pieces : List (Match Text))
    (written : Match Text → Text) : (ofPieces converter operation pieces written).events =
      pieces.filterMap (·.event? converter) := by
  rw [events, ofPieces, List.filterMap_append, List.filterMap_filterMap]
  simp [Option.bind_map]

structure Covers (report : Report) (converter : Text) (pieces : List (Match Text))
    (written : Match Text → Text) : Prop where
  outcome : report.outcome = .ok (pieces.flatMap written)
  events : report.events = pieces.filterMap (·.event? converter)

theorem covers_ofPieces (converter operation : Text) (pieces : List (Match Text))
    (written : Match Text → Text) :
    (ofPieces converter operation pieces written).Covers converter pieces written :=
  ⟨rfl, events_ofPieces converter operation pieces written⟩

theorem map_place_events (converter operation : Text) (pieces : List (Match Text))
    (written : Match Text → Text) :
    (ofPieces converter operation pieces written).events.map Event.place =
      (pieces.map Match.place).filterMap Match.reportedAt? := by
  rw [events_ofPieces]
  simp only [List.map_filterMap, List.filterMap_map, Match.place_event?]
  rfl

theorem place_events_ofPieces {pieces others : List (Match Text)}
    (same : pieces.map Match.place = others.map Match.place) (converter operation : Text)
    (written : Match Text → Text) :
    (ofPieces converter operation pieces written).events.map Event.place =
      (ofPieces converter operation others written).events.map Event.place := by
  rw [map_place_events, map_place_events, same]

end Report
end Honji
