import Honji.Composer.Rules
import Honji.Kana
import Honji.Trie.Build

/-!
The stages by which the composing trie of one kana script is built: base syllables, contractions,
letters that wait for more, doubled consonants, long vowels and punctuation.
-/

namespace Honji
namespace ComposerRules

def addRule (script : Script) (letters kana : Text) : Build Unit :=
  Build.insertNew (Path.ofText letters) (script.write kana)

def addRow (script : Script) (consonant row : Text) : Build Unit := do
  if row.length ≠ vowelCount then
    throw (.unusableTable (.rowLength consonant row.length))
  (vowelOrder.zip row).forM fun (vowel, kana) => addRule script (consonant ++ [vowel]) [kana]

def addSyllables (rules : ComposerRules) (script : Script) : Build Unit := do
  rules.vowels.entries.forM fun (vowel, kana) => addRule script vowel kana
  rules.consonantRows.entries.forM fun (consonant, row) => addRow script consonant row
  rules.irregularRows.entries.forM fun (beginning, row) =>
    row.entries.forM fun (vowel, kana) => addRule script (beginning ++ vowel) kana
  rules.smallPrefixes.forM fun mark =>
    rules.smallKana.entries.forM fun (letters, kana) => addRule script (mark ++ letters) kana
  addRule script rules.nasal rules.nasalKana
  addRule script (rules.nasal ++ [Char.ofNat 0x27]) rules.nasalKana

def addContractions (rules : ComposerRules) (script : Script) : Build Unit :=
  rules.contractionConsonants.entries.forM fun (consonant, base) =>
    rules.contractionGlides.entries.forM fun (vowel, glide) =>
      addRule script (consonant ++ 'y' :: vowel) (base ++ glide)

/-- Whether a node only waits for more letters: no rule ends there and nothing is written. -/
def waits (entry : Entry Text) : Bool :=
  !entry.terminal.taken && entry.token.isEmpty

/-- What a script repeats of letters that wait for more; katakana is typed in capitals. -/
def echo (script : Script) (letters : Text) : Text :=
  match script with
  | .hiragana => letters
  | .katakana => letters.upper

/-- Lets every node that waits for more letters repeat the letters typed so far. -/
def addEchoes (script : Script) : Build Unit :=
  Build.change fun trie =>
    match trie.frozen, (trie.root.below.walk []).find? fun entry => waits entry.2 with
    | true, some (path, _) => .error (.frozenNode path)
    | _, _ => .ok { trie with
        root := trie.root.relabelBelow fun path entry =>
          if waits entry then echo script path.joined else entry.token }

def addDoubled (rules : ComposerRules) (script : Script) (parent symbol : Symbol)
    (source : Node Text) : Build Unit :=
  Build.attach [parent] symbol (source.mapTokens (script.write rules.sokuon ++ ·))

def addDoubling (rules : ComposerRules) (script : Script) : Build Unit := do
  rules.geminationConsonants.forM fun consonant => do
    match (← Build.root).child? consonant with
    | none => throw (.unusableTable (.missingConsonant consonant))
    | some node => rules.addDoubled script consonant consonant node
  let doubling := (← Build.root).child? rules.affricatePrefix
  match rules.affricateDigraph with
  | [] => throw .pastTheEnd
  | first :: _ =>
      match doubling, (← Build.root).child? [first] with
      | some _, some source => rules.addDoubled script rules.affricatePrefix [first] source
      | _, _ =>
          throw (.unusableTable
            (.missingAffricate (rules.affricatePrefix ++ rules.affricateDigraph)))

/-- What prolongs a vowel: a sign in katakana, a kana of its own in hiragana. -/
def prolongation (rules : ComposerRules) (script : Script) (vowel : Text) :
    Except Failure Text :=
  match script with
  | .katakana => .ok rules.prolongedSound
  | .hiragana =>
      match rules.longVowelSuffixes.get? vowel with
      | some kana => .ok kana
      | none => .error (.missingKey (.text vowel))

def addLongVowel (rules : ComposerRules) (script : Script) (path : Path) (mark vowel : Text) :
    Build Nat := do
  match (← Build.root).find? (path ++ [vowel]) with
  | none => return 0
  | some node =>
      let ending ← (rules.prolongation script vowel : Except Failure Text)
      Build.add path mark (node.entry.token ++ ending)
      return 1

def prolongable (rules : ComposerRules) (root : Node Text) : List Path :=
  root.paths.filter fun path =>
    (root.find? path).any fun node => rules.longVowelSuffixes.keys.any (node.keys.contains ·)

def addLongVowels (rules : ComposerRules) (script : Script) : Build Nat := do
  let targets := rules.prolongable (← Build.root)
  let added ← targets.mapM fun path => do
    let marks ← rules.longVowelMarks.entries.mapM fun (mark, vowel) =>
      rules.addLongVowel script path mark vowel
    return marks.foldl (· + ·) 0
  return added.foldl (· + ·) 0

def addPunctuation (rules : ComposerRules) : Build Unit :=
  Build.addAll rules.punctuation.entries

def obsoleteTrie (rules : ComposerRules) (script : Script) : Except Failure (Trie Text) :=
  Trie.ofRules true ((rules.obsoleteKana.mapValues script.write).entries.map fun entry =>
    (Path.ofText entry.1, entry.2))

def addObsolete (rules : ComposerRules) (script : Script) : Build Unit :=
  Build.change fun trie => do
    let obsolete ← rules.obsoleteTrie script
    trie.mergeWith Resolver.ruled obsolete

def buildPlain (rules : ComposerRules) (script : Script) : Build Unit := do
  rules.addSyllables script
  rules.addContractions script
  addEchoes script

def buildDoubled (rules : ComposerRules) (script : Script) : Build Unit := do
  rules.buildPlain script
  rules.addDoubling script

def buildScript (rules : ComposerRules) (script : Script) : Build Unit := do
  rules.buildDoubled script
  discard (rules.addLongVowels script)
  rules.addPunctuation

def scriptTrie (rules : ComposerRules) (script : Script) : Except Failure (Trie Text) :=
  (rules.buildScript script).build (.empty true [])

def spellingTrie (rules : ComposerRules) (script : Script) (obsolete : Bool)
    (trie : Trie Text) : Except Failure (Trie Text) :=
  if obsolete then do
    return Trie.merged Resolver.ruled [trie, ← rules.obsoleteTrie script] none
  else .ok trie

end ComposerRules

structure ComposerRuleSet where
  hiragana : Trie Text
  katakana : Trie Text
  obsoleteKana : Choice

def ComposerRules.compile (rules : ComposerRules) (obsolete : Choice) :
    Except Failure ComposerRuleSet := do
  let hiragana ← rules.scriptTrie .hiragana
  let katakana ← rules.scriptTrie .katakana
  let hiragana ← rules.spellingTrie .hiragana obsolete.taken hiragana
  let katakana ← rules.spellingTrie .katakana obsolete.taken katakana
  return ⟨hiragana.freeze, katakana.freeze, obsolete⟩

end Honji
