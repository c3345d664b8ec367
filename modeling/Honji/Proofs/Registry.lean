import Honji.Proofs.Steps
import Honji.Transliteration

/-!
Everything that the registry keeps is what would be made anew. A request therefore gives the same
answer after every history of requests, whether they failed or not.
-/

namespace Honji

def Romanizer.plain (method : Method) : Except Failure Romanizer := do
  Romanizer.create (← (RomanizationRules.ofMethod method).compile) (some false) none

def Composer.plain (obsolete : Bool) : Except Failure Composer := do
  Composer.create (← ComposerRules.standard.compile (some obsolete)) none

namespace Registry

inductive Request where
  | ruleSet (method : Method)
  | composerRuleSet (obsolete : Choice)
  | newRomanizer (method : Method) (upcaseKatakana : Choice) (mapping : Option (Mapping Text))
  | newComposer (obsolete : Choice) (mapping : Option (Mapping Text))
  | romanizer (method : Method)
  | composer (obsolete : Bool)
  | toRomaji (text : Text) (method : Datum) (upcaseKatakana : Choice)
      (mapping : Option (Mapping Text))
  | toKana (text : Text) (obsolete : Bool) (mapping : Option (Mapping Text))
  | toHiragana (text : Text) (passRomaji obsolete : Bool)
  | toKatakana (text : Text) (passRomaji obsolete : Bool)

def Request.serve : Request → RegistryM Unit
  | .ruleSet method => discard (Registry.ruleSet method)
  | .composerRuleSet obsolete => discard (Registry.composerRuleSet obsolete)
  | .newRomanizer method upcaseKatakana mapping =>
      discard (Registry.newRomanizer method upcaseKatakana mapping)
  | .newComposer obsolete mapping => discard (Registry.newComposer obsolete mapping)
  | .romanizer method => discard (Registry.romanizer method)
  | .composer obsolete => discard (Registry.composer obsolete)
  | .toRomaji text method upcaseKatakana mapping =>
      discard (Transliteration.toRomaji text method upcaseKatakana mapping)
  | .toKana text obsolete mapping => discard (Transliteration.toKana text obsolete mapping)
  | .toHiragana text passRomaji obsolete =>
      discard (Transliteration.toHiragana text passRomaji obsolete)
  | .toKatakana text passRomaji obsolete =>
      discard (Transliteration.toKatakana text passRomaji obsolete)

def after (history : List Request) : Registry :=
  history.foldl (fun registry request => (Steps.run request.serve registry).2) fresh

structure Consistent (registry : Registry) : Prop where
  ruleSets : ∀ method kept, registry.ruleSets.lookup method = some kept →
    (RomanizationRules.ofMethod method).compile = .ok kept.content
  composerRuleSets : ∀ obsolete kept, registry.composerRuleSets.lookup obsolete = some kept →
    ComposerRules.standard.compile obsolete = .ok kept.content
  romanizers : ∀ method kept, registry.romanizers.lookup method = some kept →
    Romanizer.plain method = .ok kept.content
  composers : ∀ obsolete kept, registry.composers.lookup obsolete = some kept →
    Composer.plain obsolete = .ok kept.content

/-- From every consistent registry a computation comes to one outcome, and leaves it consistent. -/
def Yields {α β : Type} (steps : RegistryM α) (view : α → β) (expected : Except Failure β) : Prop :=
  ∀ registry : Registry, registry.Consistent →
    (Steps.run steps registry).1.map view = expected ∧ (Steps.run steps registry).2.Consistent

namespace Yields
variable {α β γ δ κ : Type}

theorem returned (outcome : Except Failure α) : Yields (liftM outcome) id outcome := by
  intro registry consistent
  simpa using consistent

theorem pure (value : α) (view : α → β) : Yields (pure value) view (.ok (view value)) :=
  fun _ consistent => ⟨rfl, consistent⟩

theorem bind {first : RegistryM α} {next : α → RegistryM γ} {view : α → β} {other : γ → δ}
    {expected : Except Failure β} (yields : Yields first view expected)
    (rest : β → Except Failure δ)
    (goesOn : ∀ one, expected = .ok (view one) → Yields (next one) other (rest (view one))) :
    Yields (first >>= next) other (expected >>= rest) := by
  intro registry consistent
  obtain ⟨comes, kept⟩ := yields registry consistent
  rw [Steps.run_bind]
  rcases ran : Steps.run first registry with ⟨failure | one, between⟩
  · rw [ran] at comes kept
    exact ⟨by rw [← comes]; rfl, kept⟩
  · rw [ran] at comes kept
    obtain ⟨comesOn, keptOn⟩ := goesOn one comes.symm between kept
    exact ⟨by rw [← comes]; exact comesOn, keptOn⟩

theorem discard {first : RegistryM α} {view : α → β} {expected : Except Failure β}
    (yields : Yields first view expected) (registry : Registry) (consistent : registry.Consistent) :
    (Steps.run (discard first) registry).2.Consistent := by
  have all : Yields (Functor.discard first) id (expected >>= fun _ => .ok ()) :=
    yields.bind _ fun _ _ => pure () id
  exact (all registry consistent).2

theorem issue (content : α) : Yields (Registry.issue content) Issued.content (.ok content) :=
  fun _ consistent => ⟨rfl, consistent.ruleSets, consistent.composerRuleSets,
    consistent.romanizers, consistent.composers⟩

theorem make {making : RegistryM α} (put : Issued α → Registry → Registry)
    {expected : Except Failure α} (makes : Yields making id expected)
    (keeps : ∀ registry made, registry.Consistent → expected = .ok made.content →
      (put made registry).Consistent) :
    Yields (do
      let made ← Registry.issue (← making)
      modify (put made)
      return made) Issued.content expected := by
  have made : Yields (do
      let made ← Registry.issue (← making)
      modify (put made)
      return made) Issued.content (expected >>= fun content => .ok content) := by
    apply makes.bind _
    intro content fits
    refine (issue content).bind (fun content => .ok content) fun made same => ?_
    intro registry consistent
    refine ⟨rfl, keeps registry made consistent ?_⟩
    rw [fits]
    exact same
  have same : (expected >>= fun content => .ok content) = expected := by
    cases expected <;> rfl
  exact same ▸ made

theorem keep {steps making : RegistryM (Issued α)} (known : Registry → Option (Issued α))
    {expected : Except Failure α} (makes : Yields making Issued.content expected)
    (found : ∀ registry kept, known registry = some kept →
      Steps.run steps registry = (.ok kept, registry))
    (missing : ∀ registry, known registry = none →
      Steps.run steps registry = Steps.run making registry)
    (fits : ∀ registry kept, registry.Consistent → known registry = some kept →
      expected = .ok kept.content) :
    Yields steps Issued.content expected := by
  intro registry consistent
  cases there : known registry with
  | some kept =>
      rw [found registry kept there]
      exact ⟨(fits registry kept consistent there).symm, consistent⟩
  | none =>
      rw [missing registry there]
      exact makes registry consistent

end Yields

theorem lookup_cons_eq_some {κ α : Type} [BEq κ] [LawfulBEq κ] {key query : κ} {value found : α}
    {entries : List (κ × α)} (known : ((key, value) :: entries).lookup query = some found) :
    (query = key ∧ found = value) ∨ entries.lookup query = some found := by
  rw [List.lookup_cons] at known
  split at known
  · next same => exact .inl ⟨by simpa using same, (Option.some.inj known).symm⟩
  · exact .inr known

theorem yields_ruleSet (method : Method) :
    Yields (ruleSet method) Issued.content (RomanizationRules.ofMethod method).compile := by
  refine Yields.keep (fun registry => registry.ruleSets.lookup method)
    (Yields.make (fun made registry =>
      { registry with ruleSets := (method, made) :: registry.ruleSets }) (Yields.returned _) ?_)
    (fun registry kept found => ?_) (fun registry missing => ?_)
    fun registry kept consistent found => consistent.ruleSets method kept found
  · intro registry made consistent fits
    refine ⟨fun query kept found => ?_, consistent.composerRuleSets, consistent.romanizers,
      consistent.composers⟩
    rcases lookup_cons_eq_some found with ⟨rfl, rfl⟩ | found
    · exact fits
    · exact consistent.ruleSets query kept found
  · simp only [ruleSet, Steps.run_bind_of_ok (Steps.run_get registry), found, Steps.run_pure]
  · simp only [ruleSet, Steps.run_bind_of_ok (Steps.run_get registry), missing]

theorem yields_composerRuleSet (obsolete : Choice) :
    Yields (composerRuleSet obsolete) Issued.content
      (ComposerRules.standard.compile obsolete) := by
  refine Yields.keep (fun registry => registry.composerRuleSets.lookup obsolete)
    (Yields.make (fun made registry =>
      { registry with composerRuleSets := (obsolete, made) :: registry.composerRuleSets })
      (Yields.returned _) ?_)
    (fun registry kept found => ?_) (fun registry missing => ?_)
    fun registry kept consistent found => consistent.composerRuleSets obsolete kept found
  · intro registry made consistent fits
    refine ⟨consistent.ruleSets, fun query kept found => ?_, consistent.romanizers,
      consistent.composers⟩
    rcases lookup_cons_eq_some found with ⟨rfl, rfl⟩ | found
    · exact fits
    · exact consistent.composerRuleSets query kept found
  · simp only [composerRuleSet, Steps.run_bind_of_ok (Steps.run_get registry), found,
      Steps.run_pure]
  · simp only [composerRuleSet, Steps.run_bind_of_ok (Steps.run_get registry), missing]

theorem yields_newRomanizer (method : Method) (upcaseKatakana : Choice)
    (mapping : Option (Mapping Text)) :
    Yields (newRomanizer method upcaseKatakana mapping) id
      ((RomanizationRules.ofMethod method).compile >>= fun rules =>
        Romanizer.create rules upcaseKatakana mapping) := by
  refine (yields_ruleSet method).bind (fun rules =>
    Romanizer.create rules upcaseKatakana mapping) fun rules _ => ?_
  exact Yields.returned _

theorem yields_newComposer (obsolete : Choice) (mapping : Option (Mapping Text)) :
    Yields (newComposer obsolete mapping) id
      (ComposerRules.standard.compile obsolete >>= fun rules => Composer.create rules mapping) := by
  refine (yields_composerRuleSet obsolete).bind (fun rules =>
    Composer.create rules mapping) fun rules _ => ?_
  exact Yields.returned _

theorem yields_romanizer (method : Method) :
    Yields (romanizer method) Issued.content (Romanizer.plain method) := by
  refine Yields.keep (fun registry => registry.romanizers.lookup method)
    (Yields.make (fun made registry =>
      { registry with romanizers := (method, made) :: registry.romanizers })
      (yields_newRomanizer method (some false) none) ?_)
    (fun registry kept found => ?_) (fun registry missing => ?_)
    fun registry kept consistent found => consistent.romanizers method kept found
  · intro registry made consistent fits
    refine ⟨consistent.ruleSets, consistent.composerRuleSets, fun query kept found => ?_,
      consistent.composers⟩
    rcases lookup_cons_eq_some found with ⟨rfl, rfl⟩ | found
    · exact fits
    · exact consistent.romanizers query kept found
  · simp only [romanizer, Steps.run_bind_of_ok (Steps.run_get registry), found, Steps.run_pure]
  · simp only [romanizer, Steps.run_bind_of_ok (Steps.run_get registry), missing]

theorem yields_composer (obsolete : Bool) :
    Yields (composer obsolete) Issued.content (Composer.plain obsolete) := by
  refine Yields.keep (fun registry => registry.composers.lookup obsolete)
    (Yields.make (fun made registry =>
      { registry with composers := (obsolete, made) :: registry.composers })
      (yields_newComposer (some obsolete) none) ?_)
    (fun registry kept found => ?_) (fun registry missing => ?_)
    fun registry kept consistent found => consistent.composers obsolete kept found
  · intro registry made consistent fits
    refine ⟨consistent.ruleSets, consistent.composerRuleSets, consistent.romanizers,
      fun query kept found => ?_⟩
    rcases lookup_cons_eq_some found with ⟨rfl, rfl⟩ | found
    · exact fits
    · exact consistent.composers query kept found
  · simp only [composer, Steps.run_bind_of_ok (Steps.run_get registry), found, Steps.run_pure]
  · simp only [composer, Steps.run_bind_of_ok (Steps.run_get registry), missing]

end Registry

/-! ### The facades -/

namespace Transliteration
open Registry

def romajiOf (text : Text) (method : Datum) (upcaseKatakana : Choice)
    (mapping : Option (Mapping Text)) : Except Failure Text := do
  let romanizer ← Romanizer.plain (← Method.parse method)
  (romanizer.convert text upcaseKatakana mapping).outcome

def kanaOf (text : Text) (obsolete : Bool) (mapping : Option (Mapping Text)) :
    Except Failure Text := do
  let composer ← Composer.plain obsolete
  (composer.convert text mapping).outcome

theorem yields_toRomaji (text : Text) (method : Datum) (upcaseKatakana : Choice)
    (mapping : Option (Mapping Text)) :
    Yields (toRomaji text method upcaseKatakana mapping) id
      (romajiOf text method upcaseKatakana mapping) := by
  have parsed : Yields (liftM (Method.parse method)) id (Method.parse method) :=
    Yields.returned _
  refine parsed.bind (fun method => do
    let romanizer ← Romanizer.plain method
    (romanizer.convert text upcaseKatakana mapping).outcome) fun method _ => ?_
  refine (yields_romanizer method).bind (fun romanizer =>
    (romanizer.convert text upcaseKatakana mapping).outcome) fun romanizer _ => ?_
  exact Yields.returned _

theorem yields_toKana (text : Text) (obsolete : Bool) (mapping : Option (Mapping Text)) :
    Yields (toKana text obsolete mapping) id (kanaOf text obsolete mapping) := by
  unfold toKana kanaOf
  apply Yields.bind (yields_composer obsolete) _
  intro composer _
  exact Yields.returned (composer.content.convert text mapping).outcome

theorem yields_toHiragana (text : Text) (passRomaji obsolete : Bool) :
    Yields (toHiragana text passRomaji obsolete) id
      (if text.isEmpty ∨ passRomaji then .ok (Kana.toHiragana text)
        else kanaOf (Text.lower (Kana.toHiragana text)) obsolete none) := by
  unfold toHiragana
  dsimp only
  split
  · exact Yields.pure _ id
  · exact yields_toKana _ obsolete none

theorem yields_toKatakana (text : Text) (passRomaji obsolete : Bool) :
    Yields (toKatakana text passRomaji obsolete) id
      (if text.isEmpty ∨ passRomaji then .ok (Kana.toKatakana text)
        else do
          return Kana.toKatakana (← kanaOf (Text.upper text) obsolete none)) := by
  unfold toKatakana
  split
  · exact Yields.pure _ id
  · exact (yields_toKana _ obsolete none).bind _ fun kana _ => Yields.pure _ id

end Transliteration

namespace Registry

theorem Consistent.serve {registry : Registry} (consistent : registry.Consistent)
    (request : Request) : (Steps.run request.serve registry).2.Consistent := by
  cases request with
  | ruleSet method => exact (yields_ruleSet method).discard _ consistent
  | composerRuleSet obsolete => exact (yields_composerRuleSet obsolete).discard _ consistent
  | newRomanizer method upcaseKatakana mapping =>
      exact (yields_newRomanizer method upcaseKatakana mapping).discard _ consistent
  | newComposer obsolete mapping =>
      exact (yields_newComposer obsolete mapping).discard _ consistent
  | romanizer method => exact (yields_romanizer method).discard _ consistent
  | composer obsolete => exact (yields_composer obsolete).discard _ consistent
  | toRomaji text method upcaseKatakana mapping =>
      exact (Transliteration.yields_toRomaji text method upcaseKatakana mapping).discard _
        consistent
  | toKana text obsolete mapping =>
      exact (Transliteration.yields_toKana text obsolete mapping).discard _ consistent
  | toHiragana text passRomaji obsolete =>
      exact (Transliteration.yields_toHiragana text passRomaji obsolete).discard _ consistent
  | toKatakana text passRomaji obsolete =>
      exact (Transliteration.yields_toKatakana text passRomaji obsolete).discard _ consistent

theorem consistent_fresh : fresh.Consistent := by
  constructor <;> intro key kept found <;> exact absurd found (by simp [fresh])

theorem consistent_after (history : List Request) : (after history).Consistent := by
  have onward (registry : Registry) (consistent : registry.Consistent) :
      (history.foldl (fun registry request => (Steps.run request.serve registry).2)
        registry).Consistent := by
    induction history generalizing registry with
    | nil => exact consistent
    | cons request history ih => exact ih _ (consistent.serve request)
  exact onward fresh consistent_fresh

end Registry

namespace Transliteration
open Registry

theorem romajiOf_of_plain {named : Datum} {method : Method}
    (parsed : Method.parse named = .ok method) {romanizer : Romanizer}
    (plain : Romanizer.plain method = .ok romanizer) (text : Text) (choice : Choice)
    (mapping : Option (Mapping Text)) : romajiOf text named choice mapping =
      (romanizer.convert text choice mapping).outcome := by
  rw [romajiOf, parsed]
  exact congrArg (· >>= fun romanizer => (romanizer.convert text choice mapping).outcome) plain

theorem run_toRomaji (history : List Request) (text : Text) (method : Datum)
    (upcaseKatakana : Choice) (mapping : Option (Mapping Text)) :
    (Steps.run (toRomaji text method upcaseKatakana mapping) (after history)).1 =
      romajiOf text method upcaseKatakana mapping := by
  simpa using (yields_toRomaji text method upcaseKatakana mapping _ (consistent_after history)).1

theorem run_toKana (history : List Request) (text : Text) (obsolete : Bool)
    (mapping : Option (Mapping Text)) :
    (Steps.run (toKana text obsolete mapping) (after history)).1 =
      kanaOf text obsolete mapping := by
  simpa using (yields_toKana text obsolete mapping _ (consistent_after history)).1

end Transliteration
end Honji
