import Honji.Composer.Converter
import Honji.Romanization.Converter

/-!
The rule sets and converters that are made once and then kept. Everything kept has a number of its
own, so that two requests can be told to have been given the same thing.
-/

namespace Honji

/-- Something that was made once, with the number it was given then. -/
structure Issued (α : Type) where
  number : Nat
  content : α

structure Registry where
  issued : Nat
  ruleSets : List (Method × Issued RuleSet)
  composerRuleSets : List (Choice × Issued ComposerRuleSet)
  romanizers : List (Method × Issued Romanizer)
  composers : List (Bool × Issued Composer)

abbrev RegistryM := ExceptT Failure (StateM Registry)

namespace Registry

def fresh : Registry :=
  ⟨0, [], [], [], []⟩

def issue {α : Type} (content : α) : RegistryM (Issued α) := do
  let number := (← get).issued
  modify fun registry => { registry with issued := number + 1 }
  return ⟨number, content⟩

def ruleSet (method : Method) : RegistryM (Issued RuleSet) := do
  match (← get).ruleSets.lookup method with
  | some known => return known
  | none =>
      let made ← issue (← (RomanizationRules.ofMethod method).compile)
      modify fun registry => { registry with ruleSets := (method, made) :: registry.ruleSets }
      return made

def composerRuleSet (obsolete : Choice) : RegistryM (Issued ComposerRuleSet) := do
  match (← get).composerRuleSets.lookup obsolete with
  | some known => return known
  | none =>
      let made ← issue (← ComposerRules.standard.compile obsolete)
      modify fun registry =>
        { registry with composerRuleSets := (obsolete, made) :: registry.composerRuleSets }
      return made

def newRomanizer (method : Method) (upcaseKatakana : Choice)
    (mapping : Option (Mapping Text)) : RegistryM Romanizer := do
  let rules ← ruleSet method
  Romanizer.create rules.content upcaseKatakana mapping

def newComposer (obsolete : Choice) (mapping : Option (Mapping Text)) : RegistryM Composer := do
  let rules ← composerRuleSet obsolete
  Composer.create rules.content mapping

def romanizer (method : Method) : RegistryM (Issued Romanizer) := do
  match (← get).romanizers.lookup method with
  | some known => return known
  | none =>
      let made ← issue (← newRomanizer method (some false) none)
      modify fun registry => { registry with romanizers := (method, made) :: registry.romanizers }
      return made

def composer (obsolete : Bool) : RegistryM (Issued Composer) := do
  match (← get).composers.lookup obsolete with
  | some known => return known
  | none =>
      let made ← issue (← newComposer (some obsolete) none)
      modify fun registry => { registry with composers := (obsolete, made) :: registry.composers }
      return made

end Registry
end Honji
