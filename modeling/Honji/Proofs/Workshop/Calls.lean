import Honji.Proofs.Registry
import Honji.Proofs.Workshop.Lasting

/-!
A workshop: one forest in which all tries stand. The rule sets are published in it the first time
that they are asked for and shared by everything that is made of them; converters have tries of
their own there if their caller gave rules of his own; and each conversion with rules for the call
lays them over the converter's trie in the same forest. All answers are read from the forest.

A registry keeps its rule sets and converters as values, which nothing could change; a workshop
keeps the places where they stand, so that what two of them share is shared here too.
-/

namespace Honji

/-! ### Rule sets and converters in a forest -/

structure StoredRuleSet where
  method : Method
  trie : RootedTrie Text
  longVowel : LongVowel
  upcaseKatakana : Choice

structure StoredComposerRuleSet where
  hiragana : RootedTrie Text
  katakana : RootedTrie Text
  obsoleteKana : Choice

structure StoredRomanizer where
  rules : StoredRuleSet
  active : RootedTrie Text
  customized : Bool
  upcaseKatakana : Choice

structure StoredComposer where
  rules : StoredComposerRuleSet
  hiragana : RootedTrie Text
  katakana : RootedTrie Text
  customized : Bool

namespace StoredRuleSet

def read (stored : StoredRuleSet) (forest : Forest Text) : RuleSet :=
  ⟨stored.method, stored.trie.read forest, stored.longVowel, stored.upcaseKatakana⟩

def publish (rules : RuleSet) : ForestM Text StoredRuleSet := do
  return ⟨rules.method, ← RootedTrie.publish rules.trie, rules.longVowel, rules.upcaseKatakana⟩

end StoredRuleSet

namespace StoredComposerRuleSet

def read (stored : StoredComposerRuleSet) (forest : Forest Text) : ComposerRuleSet :=
  ⟨stored.hiragana.read forest, stored.katakana.read forest, stored.obsoleteKana⟩

def publish (rules : ComposerRuleSet) : ForestM Text StoredComposerRuleSet := do
  return ⟨← RootedTrie.publish rules.hiragana, ← RootedTrie.publish rules.katakana,
    rules.obsoleteKana⟩

end StoredComposerRuleSet

namespace Romanizer

def told (romanizer : Romanizer) (choice : Choice) :
    Except Failure (List (Match Text)) → Report
  | .error failure => ⟨.error failure, [.timed (romanizer.name ++ ".convert".toList)]⟩
  | .ok pieces =>
      .ofPieces romanizer.name (romanizer.name ++ ".convert".toList) pieces
        (if romanizer.capitalizes choice then capitalized else Match.token)

theorem convert_eq_told (romanizer : Romanizer) (text : Text) (choice : Choice)
    (mapping : Option (Mapping Text)) : romanizer.convert text choice mapping =
      if text.isEmpty then .blank else romanizer.told choice (romanizer.pieces mapping text) := by
  unfold convert
  cases romanizer.pieces mapping text <;> rfl

end Romanizer

namespace Composer

def told : Except Failure (List (Match Text)) → Report
  | .error failure => ⟨.error failure, []⟩
  | .ok pieces => .ofPieces name "kana.convert".toList pieces Match.token

theorem convert_eq_told (composer : Composer) (text : Text) (mapping : Option (Mapping Text)) :
    composer.convert text mapping =
      if text.isEmpty then .blank else told (composer.pieces mapping text) := by
  unfold convert
  cases composer.pieces mapping text <;> rfl

end Composer

namespace StoredRomanizer

def read (stored : StoredRomanizer) (forest : Forest Text) : Romanizer :=
  ⟨stored.rules.read forest, stored.active.read forest, stored.customized, stored.upcaseKatakana⟩

def create (rules : StoredRuleSet) (upcaseKatakana : Choice) (mapping : Option (Mapping Text)) :
    ForestM Text StoredRomanizer := do
  return ⟨rules, ← rules.trie.customize mapping, mapping.isSome, upcaseKatakana⟩

def pieces (stored : StoredRomanizer) (mapping : Option (Mapping Text)) (text : Text) :
    ForestM Text (List (Match Text)) := do
  if text.isEmpty then return []
  let active ← stored.active.lay mapping
  return (active.read (← get)).tokenize text

def convert (stored : StoredRomanizer) (text : Text) (choice : Choice)
    (mapping : Option (Mapping Text)) : ForestM Text Report := do
  if text.isEmpty then return .blank
  let pieces ← Steps.attempt (stored.pieces mapping text)
  return (stored.read (← get)).told choice pieces

end StoredRomanizer

namespace StoredComposer

def read (stored : StoredComposer) (forest : Forest Text) : Composer :=
  ⟨stored.rules.read forest, stored.hiragana.read forest, stored.katakana.read forest,
    stored.customized⟩

def create (rules : StoredComposerRuleSet) (mapping : Option (Mapping Text)) :
    ForestM Text StoredComposer := do
  return ⟨rules, ← rules.hiragana.customize mapping, ← rules.katakana.customize mapping,
    mapping.isSome⟩

def pieces (stored : StoredComposer) (mapping : Option (Mapping Text)) (text : Text) :
    ForestM Text (List (Match Text)) := do
  if text.isEmpty then return []
  let hiragana ← stored.hiragana.lay mapping
  let katakana ← stored.katakana.lay mapping
  let forest ← get
  return Composer.tokenize (hiragana.read forest) (katakana.read forest) text

def convert (stored : StoredComposer) (text : Text) (mapping : Option (Mapping Text)) :
    ForestM Text Report := do
  if text.isEmpty then return .blank
  return Composer.told (← Steps.attempt (stored.pieces mapping text))

end StoredComposer

/-! ### Converters of both kinds -/

inductive Converter where
  | romanizer (romanizer : Romanizer)
  | composer (composer : Composer)

inductive StoredConverter where
  | romanizer (stored : StoredRomanizer)
  | composer (stored : StoredComposer)

structure Conversion where
  text : Text
  upcaseKatakana : Choice
  mapping : Option (Mapping Text)

namespace Converter

def name : Converter → Text
  | .romanizer made => made.name
  | .composer _ => Composer.name

def convert : Converter → Conversion → Report
  | .romanizer made, asked => made.convert asked.text asked.upcaseKatakana asked.mapping
  | .composer made, asked => made.convert asked.text asked.mapping

end Converter

namespace StoredConverter

def read (forest : Forest Text) : StoredConverter → Converter
  | .romanizer stored => .romanizer (stored.read forest)
  | .composer stored => .composer (stored.read forest)

def convert : StoredConverter → Conversion → ForestM Text Report
  | .romanizer stored, asked => stored.convert asked.text asked.upcaseKatakana asked.mapping
  | .composer stored, asked => stored.convert asked.text asked.mapping

end StoredConverter

inductive Order where
  | romanizer (method : Datum) (upcaseKatakana : Choice) (mapping : Option (Mapping Text))
  | composer (obsolete : Choice) (mapping : Option (Mapping Text))

namespace Order

def notices : Order → List Notice
  | .romanizer method _ _ =>
      match Method.parse method with
      | .ok method => [.timed (Romanizer.creation method)]
      | .error _ => []
  | .composer _ _ => [.timed Composer.creation]

def make : Order → RegistryM Converter
  | .romanizer method upcaseKatakana mapping => do
      return .romanizer (← Registry.newRomanizer (← Method.parse method) upcaseKatakana mapping)
  | .composer obsolete mapping => do
      return .composer (← Registry.newComposer obsolete mapping)

end Order

/-! ### The workshop -/

/--
A forest; the rule sets and the plain converters that are kept in it; and what each order came to,
in the sequence of the orders.
-/
structure Workshop where
  forest : Forest Text
  ruleSets : List (Method × StoredRuleSet)
  composerRuleSets : List (Choice × StoredComposerRuleSet)
  romanizers : List (Method × StoredRomanizer)
  composers : List (Bool × StoredComposer)
  orders : List (Except Failure StoredConverter)

abbrev WorkshopM := ExceptT Failure (StateM Workshop)

namespace Workshop

def fresh : Workshop :=
  ⟨.empty, [], [], [], [], []⟩

def inForest {α : Type} (act : ForestM Text α) : WorkshopM α := fun workshop =>
  let (outcome, forest) := Steps.run act workshop.forest
  (outcome, { workshop with forest := forest })

def kept {κ τ : Type} [BEq κ] (shelf : Workshop → List (κ × τ))
    (shelve : Workshop → List (κ × τ) → Workshop) (key : κ) (make : WorkshopM τ) :
    WorkshopM τ := do
  match (shelf (← get)).lookup key with
  | some known => return known
  | none =>
      let made ← make
      modify fun workshop => shelve workshop ((key, made) :: shelf workshop)
      return made

def ruleSet (method : Method) : WorkshopM StoredRuleSet :=
  kept ruleSets (fun workshop shelf => { workshop with ruleSets := shelf }) method do
    inForest (StoredRuleSet.publish (← (RomanizationRules.ofMethod method).compile))

def composerRuleSet (obsolete : Choice) : WorkshopM StoredComposerRuleSet :=
  kept composerRuleSets (fun workshop shelf => { workshop with composerRuleSets := shelf })
    obsolete do
      inForest (StoredComposerRuleSet.publish (← ComposerRules.standard.compile obsolete))

def newRomanizer (method : Method) (upcaseKatakana : Choice) (mapping : Option (Mapping Text)) :
    WorkshopM StoredRomanizer := do
  inForest (StoredRomanizer.create (← ruleSet method) upcaseKatakana mapping)

def newComposer (obsolete : Choice) (mapping : Option (Mapping Text)) :
    WorkshopM StoredComposer := do
  inForest (StoredComposer.create (← composerRuleSet obsolete) mapping)

def romanizer (method : Method) : WorkshopM StoredRomanizer :=
  kept romanizers (fun workshop shelf => { workshop with romanizers := shelf }) method
    (newRomanizer method (some false) none)

def composer (obsolete : Bool) : WorkshopM StoredComposer :=
  kept composers (fun workshop shelf => { workshop with composers := shelf }) obsolete
    (newComposer (some obsolete) none)

def make : Order → WorkshopM StoredConverter
  | .romanizer method upcaseKatakana mapping => do
      return .romanizer (← newRomanizer (← Method.parse method) upcaseKatakana mapping)
  | .composer obsolete mapping => do
      return .composer (← newComposer obsolete mapping)

def place (order : Order) : WorkshopM Report := do
  let outcome ← Steps.attempt (make order)
  modify fun workshop => { workshop with orders := workshop.orders ++ [outcome] }
  let forest := (← get).forest
  return ⟨outcome.map fun converter => (converter.read forest).name, order.notices⟩

def convert (number : Nat) (asked : Conversion) : WorkshopM Report := do
  match (← get).orders[number]? with
  | some (.ok converter) => inForest (converter.convert asked)
  | _ => return .blank

def toRomaji (asked : Conversion) (method : Datum) : WorkshopM Text := do
  let stored ← romanizer (← Method.parse method)
  (← inForest (stored.convert asked.text asked.upcaseKatakana asked.mapping)).outcome

def toKana (text : Text) (obsolete : Bool) (mapping : Option (Mapping Text)) :
    WorkshopM Text := do
  let stored ← composer obsolete
  (← inForest (stored.convert text mapping)).outcome

def toHiragana (text : Text) (passRomaji obsolete : Bool) : WorkshopM Text := do
  let shifted := Kana.toHiragana text
  if text.isEmpty ∨ passRomaji then return shifted
  toKana (Text.lower shifted) obsolete none

def toKatakana (text : Text) (passRomaji obsolete : Bool) : WorkshopM Text := do
  if text.isEmpty ∨ passRomaji then return Kana.toKatakana text
  return Kana.toKatakana (← toKana (Text.upper text) obsolete none)

end Workshop

inductive Call where
  | ruleSet (method : Datum)
  | composerRuleSet (obsolete : Choice)
  | order (order : Order)
  | convert (number : Nat) (asked : Conversion)
  | toRomaji (asked : Conversion) (method : Datum)
  | toKana (text : Text) (obsolete : Bool) (mapping : Option (Mapping Text))
  | toHiragana (text : Text) (passRomaji obsolete : Bool)
  | toKatakana (text : Text) (passRomaji obsolete : Bool)

namespace Call

def silent (steps : WorkshopM Text) : WorkshopM Report := do
  return ⟨← Steps.attempt steps, []⟩

def act : Call → WorkshopM Report
  | .ruleSet method => silent do
      return (← Workshop.ruleSet (← Method.parse method)).method.name
  | .composerRuleSet obsolete => silent do
      return (Datum.ofChoice (← Workshop.composerRuleSet obsolete).obsoleteKana).shown
  | .order wanted => Workshop.place wanted
  | .convert number asked => Workshop.convert number asked
  | .toRomaji asked method => silent (Workshop.toRomaji asked method)
  | .toKana text obsolete mapping => silent (Workshop.toKana text obsolete mapping)
  | .toHiragana text passRomaji obsolete => silent (Workshop.toHiragana text passRomaji obsolete)
  | .toKatakana text passRomaji obsolete => silent (Workshop.toKatakana text passRomaji obsolete)

def placed : Call → List Order
  | .order wanted => [wanted]
  | _ => []

end Call

namespace Workshop

def serve (workshop : Workshop) (call : Call) : Workshop :=
  (Steps.run call.act workshop).2

def serveAll (workshop : Workshop) (calls : List Call) : Workshop :=
  calls.foldl serve workshop

def answer (workshop : Workshop) (call : Call) : Except Failure Report :=
  (Steps.run call.act workshop).1

end Workshop
end Honji
