import Honji.Forest.Trie
import Honji.Registry

/-!
A forest beside the registry: the tries of published rules can be brought into the forest, where
each of them stands once however often it is asked for.
-/

namespace Honji

inductive Publication where
  | romanization (method : Method)
  | composing (obsolete : Choice) (script : Script)
  deriving DecidableEq

structure Grove where
  forest : Forest Datum
  registry : Registry
  published : List (Publication × RootedTrie Datum)

abbrev GroveM := ExceptT Failure (StateM Grove)

namespace Grove

def plain (registry : Registry) : Grove :=
  ⟨.empty, registry, []⟩

def inForest {α : Type} (act : ForestM Datum α) : GroveM α := fun grove =>
  let (outcome, forest) := act grove.forest
  (outcome, { grove with forest := forest })

def inRegistry {α : Type} (act : RegistryM α) : GroveM α := fun grove =>
  let (outcome, registry) := act grove.registry
  (outcome, { grove with registry := registry })

def rules : Publication → RegistryM (Trie Text)
  | .romanization method => return (← Registry.ruleSet method).content.trie
  | .composing obsolete .hiragana => return (← Registry.composerRuleSet obsolete).content.hiragana
  | .composing obsolete .katakana => return (← Registry.composerRuleSet obsolete).content.katakana

def stored (trie : Trie Text) : Trie Datum :=
  ⟨trie.root.mapTokens Datum.text, trie.caseInsensitive, .text trie.placeholder, trie.frozen⟩

def plantPublished (trie : Trie Text) : ForestM Datum (RootedTrie Datum) := do
  let planted ← RootedTrie.plant (stored trie) trie.caseInsensitive
  if trie.frozen then planted.freeze
  return planted

def publish (publication : Publication) : GroveM (RootedTrie Datum) := do
  match (← get).published.lookup publication with
  | some trie => return trie
  | none =>
      let planted ← inForest (plantPublished (← inRegistry (rules publication)))
      modify fun grove => { grove with published := (publication, planted) :: grove.published }
      return planted

def letGo (grove : Grove) (held : List NodeId) : Grove :=
  { grove with forest := grove.forest.letGo (held ++ grove.published.map (·.2.root)) }

end Grove
end Honji
