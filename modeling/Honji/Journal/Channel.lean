import Honji.Text.Basic

/-!
Channels, which messages are told on, and the levels that say how urgent a message is. The names
of channels are dotted: what ends before a dot is the name of a channel above.
-/

namespace Honji

abbrev Level := Int

namespace Level

def debug : Level := 10
def info : Level := 20
def warning : Level := 30
def error : Level := 40
def critical : Level := 50

def unset : Level := 0

def title (level : Level) : Text :=
  if level = debug then "DEBUG".toList
  else if level = info then "INFO".toList
  else if level = warning then "WARNING".toList
  else if level = error then "ERROR".toList
  else if level = critical then "CRITICAL".toList
  else if level = unset then "NOTSET".toList
  else "Level ".toList ++ Text.ofInt level

end Level

abbrev Channel := Text

namespace Channel

def top : Channel := "romakana".toList

def timing : Channel := "romakana.timing".toList

/-- The channel of a name; names are put below the top channel unless they begin with it. -/
def named (name : Text) : Channel :=
  if name.isEmpty ∨ name = top then top
  else if (top ++ ['.']).isPrefixOf name then name
  else top ++ '.' :: name

/--
The names above a name that is read from its end, the nearest first. A dot ends a name, unless it
stands right before a dot that ends one.
-/
def aboveReversed : Text → List Channel
  | '.' :: last :: rest => (last :: rest).reverse :: aboveReversed rest
  | _ :: rest => aboveReversed rest
  | [] => []

def above (channel : Channel) : List Channel :=
  aboveReversed channel.reverse

end Channel
end Honji
