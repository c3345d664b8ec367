import Honji.Composer.Converter
import Honji.Journal.Basic
import Honji.Romanization.Converter
import Honji.Trie.Items

/-!
What the library itself notes in the journal: the time that operations take, the pieces of a text
for which there is no rule, and the sizes of compiled rules.
-/

namespace Honji
namespace Journal

def logTiming (journal : Journal) (clock : Clock) (channel : Channel) (level : Level)
    (operation : Text) : Journal :=
  journal.log clock ⟨channel, level, "[Timing] ".toList ++ operation ++ ": ".toList ++
    clock.duration⟩

def operationName (given : Option Text) (own : Text) : Text :=
  match given with
  | none | some [] => own
  | some name => name

def matcherChannel : Channel := Channel.named "core.matcher".toList

def converterChannel (converter : Text) : Channel :=
  Channel.named ("converter.".toList ++ converter)

def logNotice (clock : Clock) (converter : Text) (journal : Journal) : Notice → Journal
  | .unruled event => journal.log clock ⟨matcherChannel, Level.debug,
      event.kind.name ++ ": ".toList ++ event.text.quoted ++ " -> ".toList ++
        event.token.quoted ++ " @ ".toList ++ Text.ofNat event.start⟩
  | .timed operation =>
      journal.logTiming clock (converterChannel converter) Level.debug operation

def logNotices (journal : Journal) (clock : Clock) (converter : Text)
    (notices : List Notice) : Journal :=
  notices.foldl (logNotice clock converter) journal

def logCompilation (journal : Journal) (clock : Clock) (channel : Channel)
    (operation summary : Text) : Journal :=
  (journal.logTiming clock channel Level.debug operation).log clock
    ⟨channel, Level.info, "Compiled ".toList ++ summary ++ " in ".toList ++ clock.duration⟩

def logRuleSet (journal : Journal) (clock : Clock) (rules : RuleSet) : Journal :=
  let method := rules.method.name
  journal.logCompilation clock (Channel.named "romaji.compiler".toList)
    ("compile_ruleset(".toList ++ method ++ [')'])
    (method ++ " rule set: ".toList ++ Text.ofNat rules.trie.size ++ " nodes".toList)

def logComposerRuleSet (journal : Journal) (clock : Clock) (rules : ComposerRuleSet) : Journal :=
  let spelling := "obsolete=".toList ++ (Datum.ofChoice rules.obsoleteKana).shown
  journal.logCompilation clock (Channel.named "kana.compiler".toList)
    ("compile_kana_ruleset(".toList ++ spelling ++ [')'])
    ("kana rule set (".toList ++ spelling ++ "): ".toList ++ Text.ofNat rules.hiragana.size ++
      " nodes per script".toList)

def logConversion (journal : Journal) (clock : Clock) (converter creation : Text)
    (report : Report) : Journal :=
  (journal.logNotices clock converter [.timed creation]).logNotices clock converter report.notices

end Journal
end Honji
