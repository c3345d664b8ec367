import Honji.Kana
import Honji.Romanization.Rules
import Honji.Trie.Build

/-!
The stages by which the rule trie of one kana script is built: contractions, the nasal before
vowels, doubled consonants, long vowels and punctuation.
-/

namespace Honji
namespace RomanizationRules

def baseLetter (rule : BaseRule) (kana : Text) : Build Char := do
  match (← Build.root).child? kana with
  | none => throw (.unusableTable (.missingBase rule kana))
  | some node =>
      match node.entry.token with
      | [] => throw (.unusableTable (.emptyBase rule kana))
      | letter :: _ => return letter

def addSyllables (rules : RomanizationRules) (script : Script) : Build Unit :=
  Build.addAll (rules.syllabary.entries.map fun entry => (script.write entry.1, entry.2))

def addContraction (script : Script) (kana : Text) (endings : List Text) : Build Unit := do
  if endings.length ≠ glideCount then
    throw (.unusableTable (.suffixCount kana endings.length))
  let letter ← baseLetter .contraction (script.write kana)
  (glides.zip endings).forM fun (glide, ending) =>
    Build.add [script.write kana] (script.write glide) (letter :: ending)

def addContractions (rules : RomanizationRules) (script : Script) : Build Unit :=
  rules.contractions.entries.forM fun (kana, endings) => addContraction script kana endings

def addNasals (rules : RomanizationRules) (script : Script) : Build Unit := do
  let letter ← baseLetter .nasal (script.write nasal)
  rules.nasalFollowers.entries.forM fun (kana, syllable) =>
    Build.add [script.write nasal] (script.write kana) (letter :: Char.ofNat 0x27 :: syllable)

def doubled (rules : RomanizationRules) : Text → Text
  | [] => []
  | letter :: rest =>
      if rules.affricateDigraph.isPrefixOf (letter :: rest) then
        rules.affricateSubstitute ++ letter :: rest
      else letter :: letter :: rest

/--
What stands below the small tsu: a copy of every tree below the root that is not excluded. Where
the small tsu is not excluded itself, a copy of what stands below it follows.
-/
def doublingTree (excluded : List Text) (smallTsu : Text) (root : Node Text) : Node Text :=
  let copies : Node Text := { root.filterKeys (!excluded.contains ·) with entry := ⟨[], true⟩ }
  if excluded.contains smallTsu then copies else copies.plant [] smallTsu copies

def addDoubling (rules : RomanizationRules) (script : Script) : Build Unit := do
  let excluded := rules.geminationExclusions.map script.write
  let tree := doublingTree excluded (script.write smallTsu) (← Build.root)
  Build.attach [] (script.write smallTsu) (tree.mapTokens rules.doubled)

def prolongable (script : Script) (root : Node Text) : List (Path × Text) :=
  let barred := [script.write nasal, script.write smallTsu]
  (root.below.walk []).filterMap fun (path, entry) =>
    if path.getLast? = some prolongedSound ∨ entry.token.isEmpty then none
    else if path.head?.any (barred.contains ·) then none
    else some (path, entry.token)

/-- The sign of a long vowel after every token that can be prolonged; answers how many. -/
def addLongVowels (rules : RomanizationRules) (script : Script) : Build Nat := do
  let targets := prolongable script (← Build.root)
  targets.forM fun (path, token) => do
    let longer ← (rules.longVowel.apply token : Except Failure Text)
    Build.add path prolongedSound longer
  return targets.length

def addPunctuation (rules : RomanizationRules) : Build Unit :=
  Build.addAll rules.punctuation.entries

def buildPlain (rules : RomanizationRules) (script : Script) : Build Unit := do
  rules.addSyllables script
  rules.addContractions script
  rules.addNasals script

def buildDoubled (rules : RomanizationRules) (script : Script) : Build Unit := do
  rules.buildPlain script
  rules.addDoubling script

/-- All stages of one script but the punctuation. Only katakana has long vowels of its own. -/
def buildScript (rules : RomanizationRules) (script : Script) : Build Unit := do
  rules.buildDoubled script
  match script with
  | .hiragana => return
  | .katakana => discard (rules.addLongVowels script)

def scriptTrie (rules : RomanizationRules) (script : Script) : Except Failure (Trie Text) :=
  (rules.buildScript script).build (.empty false [])

end RomanizationRules

structure RuleSet where
  method : Method
  trie : Trie Text
  longVowel : LongVowel
  upcaseKatakana : Choice

def RomanizationRules.compile (rules : RomanizationRules) : Except Failure RuleSet := do
  let hiragana ← rules.scriptTrie .hiragana
  let katakana ← rules.scriptTrie .katakana
  let both := Trie.merged Resolver.later [hiragana, katakana] none
  let trie ← rules.addPunctuation.build both
  return ⟨rules.method, trie.freeze, rules.longVowel, rules.upcaseKatakana⟩

end Honji
