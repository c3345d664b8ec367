import Honji.Failure
import Honji.Journal.Channel
import Honji.Journal.Clock
import Honji.Journal.Format

/-!
The journal: a channel's level decides whether a message is taken, and a single sink writes the
lines. A channel hangs under the nearest name above it that is open. Without a level of its own it
has that of the channel it hangs under, and in the end that of the journal as a whole.
-/

namespace Honji

structure Message where
  channel : Channel
  level : Level
  text : Text

structure Sink where
  level : Level
  format : List FormatPart
  usable : Bool

def FormatPart.written (clock : Clock) (message : Message) : FormatPart → Text
  | .literal character => [character]
  | .time => clock.moment
  | .level => message.level.title
  | .channel => message.channel
  | .message => message.text
  | .broken => []

/--
A message in the format of a sink: a line, or more of them if there is a line end in the format or
in what it is filled with. A broken format writes nothing.
-/
def Sink.linesOf (sink : Sink) (clock : Clock) (message : Message) : List Text :=
  if sink.format.contains .broken then []
  else (sink.format.flatMap (·.written clock message)).splitOn '\n'

/--
The levels that were set, the sink once there is one, the lines it has written, the channels that
are open, and for which levels it was decided whether a channel takes messages.
-/
structure Journal where
  topLevel : Level
  timingLevel : Level
  sink : Option Sink
  lines : List Text
  opened : List Channel
  decided : List ((Channel × Level) × Bool)

namespace Journal

def baseLevel : Level := Level.warning

def fresh : Journal :=
  ⟨Level.unset, Level.unset, none, [], [Channel.top, Channel.timing], []⟩

def levelOf (journal : Journal) (channel : Channel) : Level :=
  if channel = Channel.top then journal.topLevel
  else if channel = Channel.timing then journal.timingLevel
  else Level.unset

def parent? (journal : Journal) (channel : Channel) : Option Channel :=
  channel.above.find? journal.opened.contains

def climb (journal : Journal) : Nat → Channel → List Channel
  | 0, channel => [channel]
  | steps + 1, channel =>
      match journal.parent? channel with
      | none => [channel]
      | some parent => channel :: journal.climb steps parent

def lineage (journal : Journal) (channel : Channel) : List Channel :=
  journal.climb channel.length channel

def reachesTop (journal : Journal) (channel : Channel) : Bool :=
  (journal.lineage channel).contains Channel.top

def effectiveLevel (journal : Journal) (channel : Channel) : Level :=
  (((journal.lineage channel).map journal.levelOf).find? (· ≠ Level.unset)).getD baseLevel

/-- Whether a channel takes messages of a level. What was decided stands until a level is set. -/
def takes (journal : Journal) (channel : Channel) (level : Level) : Bool :=
  (journal.decided.lookup (channel, level)).getD
    (Level.unset < level && journal.effectiveLevel channel ≤ level)

def openChannel (journal : Journal) (channel : Channel) : Journal :=
  if journal.opened.contains channel then journal
  else { journal with opened := channel :: journal.opened }

def decideOn (journal : Journal) (channel : Channel) (level : Level) : Journal :=
  { journal with
    decided := ((channel, level), journal.takes channel level) :: journal.decided }

def sinkLevels (journal : Journal) : List Level :=
  (journal.sink.filter (·.usable)).toList.map (·.level)

def deliver (journal : Journal) (clock : Clock) (message : Message) : Journal :=
  if journal.reachesTop message.channel then
    match journal.sink with
    | some sink =>
        if sink.usable && sink.level ≤ message.level then
          { journal with lines := journal.lines ++ sink.linesOf clock message }
        else journal
    | none => journal
  else journal

def log (journal : Journal) (clock : Clock) (message : Message) : Journal :=
  let journal := (journal.openChannel message.channel).decideOn message.channel message.level
  if journal.takes message.channel message.level then journal.deliver clock message else journal

def setTopLevel (journal : Journal) (level : Level) : Journal :=
  { journal with topLevel := level, decided := [] }

/--
Sets the level of the library and of its sink, which is made the first time and keeps the format
it was made with. A format that shows no field is refused.
-/
def setUp (journal : Journal) (level : Level) (format : Text) : Except Failure Unit × Journal :=
  match journal.sink with
  | some sink =>
      (.ok (), { journal with sink := some { sink with level := level } }.setTopLevel level)
  | none =>
      let format := if format.isEmpty then FormatPart.bare else format
      let parts := FormatPart.parse format
      if FormatPart.showsField format then
        (.ok (), { journal with sink := some ⟨level, parts, true⟩ }.setTopLevel level)
      else
        (.error (.fieldlessFormat format),
          { journal with sink := some ⟨Level.unset, parts, false⟩ })

def setLevel (journal : Journal) (level : Level) : Journal :=
  (journal.setUp level FormatPart.standard).2

def enableDebug (journal : Journal) : Journal :=
  journal.setLevel Level.debug

/-- Lets everything through if that is asked for, and leaves the journal alone otherwise. -/
def configure (journal : Journal) (verbose : Bool) : Journal :=
  if verbose then journal.enableDebug else journal

def enableTiming (journal : Journal) : Journal :=
  let quiet := journal.setLevel Level.warning
  { quiet with
    timingLevel := Level.debug
    sink := quiet.sink.map ({ · with level := Level.debug }) }

end Journal
end Honji
