import Honji.Proofs.Workshop.Stored

/-!
What a workshop keeps. All of it is what would be made anew and lasts in the forest; whatever is
asked of a workshop only adds to that, whether it fails or not, and comes to what it comes to when
everything is made anew.
-/

namespace Honji

open Planted (Lasts)

theorem RomanizationRules.frozen_of_compile {rules : RomanizationRules} {ruleSet : RuleSet}
    (compiled : rules.compile = .ok ruleSet) : ruleSet.trie.frozen = true := by
  obtain ⟨_, -, compiled⟩ := Steps.bind_eq_ok.1 compiled
  obtain ⟨_, -, compiled⟩ := Steps.bind_eq_ok.1 compiled
  obtain ⟨_, -, compiled⟩ := Steps.bind_eq_ok.1 compiled
  cases compiled
  rfl

theorem ComposerRules.frozen_of_compile {rules : ComposerRules} {obsolete : Choice}
    {ruleSet : ComposerRuleSet} (compiled : rules.compile obsolete = .ok ruleSet) :
    ruleSet.hiragana.frozen = true ∧ ruleSet.katakana.frozen = true := by
  obtain ⟨_, -, compiled⟩ := Steps.bind_eq_ok.1 compiled
  obtain ⟨_, -, compiled⟩ := Steps.bind_eq_ok.1 compiled
  obtain ⟨_, -, compiled⟩ := Steps.bind_eq_ok.1 compiled
  obtain ⟨_, -, compiled⟩ := Steps.bind_eq_ok.1 compiled
  cases compiled
  exact ⟨rfl, rfl⟩

def Order.expected : Order → Except Failure Converter
  | .romanizer method upcaseKatakana mapping => do
      let method ← Method.parse method
      let made ← (RomanizationRules.ofMethod method).compile >>= fun rules =>
        Romanizer.create rules upcaseKatakana mapping
      return .romanizer made
  | .composer obsolete mapping => do
      let made ← ComposerRules.standard.compile obsolete >>= fun rules =>
        Composer.create rules mapping
      return .composer made

/-! ### What is kept -/

def Forest.Stocks {κ τ β : Type} [BEq κ] [Planted τ β] (forest : Forest Text)
    (shelf : List (κ × τ)) (expected : κ → Except Failure β) : Prop :=
  ∀ key stored, shelf.lookup key = some stored →
    ∃ content, expected key = .ok content ∧ Lasts stored forest content

namespace Forest.Stocks
variable {κ τ β : Type} [BEq κ] [Planted τ β] {before after forest : Forest Text}
  {shelf : List (κ × τ)} {expected : κ → Except Failure β}

theorem keep (stocks : before.Stocks shelf expected) (keeps : before.Keeps after) :
    after.Stocks shelf expected := by
  intro key stored found
  obtain ⟨content, fits, lasts⟩ := stocks key stored found
  exact ⟨content, fits, lasts.keep keeps⟩

theorem cons [LawfulBEq κ] (stocks : forest.Stocks shelf expected) {key : κ} {made : τ}
    {content : β} (fits : expected key = .ok content) (lasts : Lasts made forest content) :
    forest.Stocks ((key, made) :: shelf) expected := by
  intro query stored found
  rcases Registry.lookup_cons_eq_some found with ⟨rfl, rfl⟩ | found
  · exact ⟨content, fits, lasts⟩
  · exact stocks query stored found

end Forest.Stocks

namespace Workshop
variable {orders : List Order} {workshop before between after : Workshop}

/-- All that is kept is what would be made anew, and the orders came to what is expected. -/
structure Sound (orders : List Order) (workshop : Workshop) : Prop where
  ruleSets : workshop.forest.Stocks workshop.ruleSets fun method =>
    (RomanizationRules.ofMethod method).compile
  composerRuleSets : workshop.forest.Stocks workshop.composerRuleSets
    ComposerRules.standard.compile
  romanizers : workshop.forest.Stocks workshop.romanizers Romanizer.plain
  composers : workshop.forest.Stocks workshop.composers Composer.plain
  orders : List.Forall₂ (fun order outcome =>
    Agree (Lasts · workshop.forest ·) outcome order.expected) orders workshop.orders

theorem sound_fresh : Sound [] fresh := by
  constructor
  case orders => exact .nil
  all_goals exact fun key stored found => absurd found (by simp [fresh])

structure Leads (before after : Workshop) : Prop where
  forest : before.forest.Keeps after.forest
  ruleSets : ∀ method stored, before.ruleSets.lookup method = some stored →
    after.ruleSets.lookup method = some stored
  composerRuleSets : ∀ obsolete stored, before.composerRuleSets.lookup obsolete = some stored →
    after.composerRuleSets.lookup obsolete = some stored

theorem Leads.refl (workshop : Workshop) : workshop.Leads workshop :=
  ⟨Std.Refl.refl _, fun _ _ => id, fun _ _ => id⟩

theorem Leads.trans (first : before.Leads between) (second : between.Leads after) :
    before.Leads after where
  forest := trans_of Forest.Keeps first.forest second.forest
  ruleSets := fun method stored found =>
    second.ruleSets method stored (first.ruleSets method stored found)
  composerRuleSets := fun obsolete stored found =>
    second.composerRuleSets obsolete stored (first.composerRuleSets obsolete stored found)

structure Advances (orders : List Order) (before after : Workshop) : Prop where
  leads : before.Leads after
  sound : before.Sound orders → after.Sound orders

instance : Std.Refl (Advances orders) :=
  ⟨fun workshop => ⟨.refl workshop, id⟩⟩

instance : IsTrans Workshop (Advances orders) :=
  ⟨fun _ _ _ first second => ⟨first.leads.trans second.leads, second.sound ∘ first.sound⟩⟩

structure Grows (before after : Workshop) : Prop where
  forest : before.forest.Keeps after.forest
  rest : after = { before with forest := after.forest }

instance : Std.Refl Grows :=
  ⟨fun _ => ⟨Std.Refl.refl _, rfl⟩⟩

instance : IsTrans Workshop Grows :=
  ⟨fun _ _ _ first second => ⟨trans_of Forest.Keeps first.forest second.forest, by
    rw [second.rest, first.rest]⟩⟩

theorem Grows.advances (grows : Grows before after) : Advances orders before after := by
  obtain ⟨keeps, rest⟩ := grows
  generalize after.forest = forest at keeps rest
  subst rest
  refine ⟨⟨keeps, fun _ _ => id, fun _ _ => id⟩, fun sound => ?_⟩
  refine ⟨sound.ruleSets.keep keeps, sound.composerRuleSets.keep keeps,
    sound.romanizers.keep keeps, sound.composers.keep keeps, sound.orders.imp ?_⟩
  rintro order outcome agree
  exact agree.imp fun stored content lasts => lasts.keep keeps

theorem run_inForest {α : Type} (steps : ForestM Text α) (workshop : Workshop) :
    Steps.run (inForest steps) workshop = ((Steps.run steps workshop.forest).1,
      { workshop with forest := (Steps.run steps workshop.forest).2 }) := rfl

theorem comes_inForest {α β : Type} {steps : ForestM Text α} {means : α → Forest Text → β → Prop}
    {expected : Except Failure β}
    (comes : Steps.Comes Forest.Keeps workshop.forest steps means expected) :
    Steps.Comes Grows workshop (inForest steps)
      (fun made after value => means made after.forest value) expected := by
  cases comes with
  | ok ran later same => exact .ok (by rw [run_inForest, ran]) ⟨later, rfl⟩ same
  | error ran later => exact .error (by rw [run_inForest, ran]) ⟨later, rfl⟩

section
variable {κ τ β : Type} [BEq κ] {shelf : Workshop → List (κ × τ)}
  {shelve : Workshop → List (κ × τ) → Workshop} {key : κ} {make : WorkshopM τ}
  {onward : Workshop → Workshop → Prop} {expected : κ → Except Failure β}

theorem run_kept_of_lookup {stored : τ} (found : (shelf workshop).lookup key = some stored) :
    Steps.run (kept shelf shelve key make) workshop = (.ok stored, workshop) := by
  simp only [kept, Steps.run_bind_of_ok (Steps.run_get workshop), found, Steps.run_pure]

theorem run_kept_of_missing (shelve : Workshop → List (κ × τ) → Workshop) (make : WorkshopM τ)
    (missing : (shelf workshop).lookup key = none) :
    Steps.run (kept shelf shelve key make) workshop = Steps.run (do
      let made ← make
      modify fun workshop => shelve workshop ((key, made) :: shelf workshop)
      return made) workshop := by
  simp only [kept, Steps.run_bind_of_ok (Steps.run_get workshop), missing]

/-- What looks something up, or else makes and keeps it, gives what would be made anew. -/
theorem comes_kept [LawfulBEq κ] [Planted τ β] {expected : κ → Except Failure β}
    (stocks : workshop.forest.Stocks (shelf workshop) expected)
    (makes : Steps.Comes onward workshop make
      (fun made after content => Lasts made after.forest content) (expected key))
    (advances : ∀ after, onward workshop after → Advances orders workshop after)
    (places : ∀ made after content, onward workshop after →
      (shelf workshop).lookup key = none → expected key = .ok content →
        Lasts made after.forest content →
          Advances orders after (shelve after ((key, made) :: shelf after)))
    (law : ∀ after entries, shelf (shelve after entries) = entries ∧
      (shelve after entries).forest = after.forest) :
    Steps.Comes (Advances orders) workshop (kept shelf shelve key make)
      (fun made after content =>
        Lasts made after.forest content ∧ (shelf after).lookup key = some made)
      (expected key) := by
  cases found : (shelf workshop).lookup key with
  | some stored =>
      obtain ⟨content, fits, lasts⟩ := stocks key stored found
      rw [fits]
      exact .ok (run_kept_of_lookup found) (Std.Refl.refl workshop) ⟨lasts, found⟩
  | none =>
      have ran := run_kept_of_missing shelve make found
      generalize wanted : expected key = outcome at makes
      cases makes with
      | error failed later =>
          -- what could not be made is not kept, so it is refused in the same way the next time
          rw [Steps.run_bind, failed] at ran
          exact .error ran (advances _ later)
      | ok made later lasts =>
          rw [Steps.run_bind_of_ok made] at ran
          obtain ⟨own, same⟩ := law _ ((key, _) :: shelf _)
          exact .ok ran (trans_of (Advances orders) (advances _ later)
            (places _ _ _ later found wanted lasts))
            ⟨by rwa [same], by rw [own, List.lookup_cons_self]⟩

end

theorem lookup_cons_of_missing {κ τ : Type} [BEq κ] [LawfulBEq κ] {shelf : List (κ × τ)}
    {key query : κ} {stored : τ} (missing : shelf.lookup key = none)
    (found : shelf.lookup query = some stored) (made : τ) :
    ((key, made) :: shelf).lookup query = some stored := by
  have other : query ≠ key := by
    rintro rfl
    simp [missing] at found
  rw [List.lookup_cons, beq_eq_false_iff_ne.2 other]
  exact found

/-! ### What the parts of a call come to -/

theorem comes_published {τ β : Type} [Planted τ β] {compiled : Except Failure β}
    {publish : β → ForestM Text τ}
    (comes : ∀ content, compiled = .ok content → ∀ forest,
      Steps.Comes Forest.Keeps forest (publish content) Lasts (.ok content)) :
    Steps.Comes Grows workshop (do inForest (publish (← compiled)))
      (fun made after content => Lasts made after.forest content) compiled := by
  have published (content : β) (between : Workshop) (value : β) (_ : workshop.Grows between)
      (same : content = value) (fits : compiled = .ok value) : Steps.Comes Grows between
        (inForest (publish content)) (fun made after content => Lasts made after.forest content)
          (.ok value) :=
    same ▸ comes_inForest (comes content (same ▸ fits) between.forest)
  have all := (Steps.Comes.lift compiled).bind .ok published
  rwa [show (compiled >>= Except.ok) = compiled from bind_pure _] at all

theorem comes_ruleSet (sound : workshop.Sound orders) (method : Method) :
    Steps.Comes (Advances orders) workshop (ruleSet method)
      (fun made after rules =>
        Lasts made after.forest rules ∧ after.ruleSets.lookup method = some made)
      (RomanizationRules.ofMethod method).compile := by
  unfold ruleSet
  refine comes_kept sound.ruleSets
    (comes_published fun rules compiled =>
      StoredRuleSet.comes_publish (RomanizationRules.frozen_of_compile compiled))
    (fun _ => Grows.advances) ?_ fun _ _ => ⟨rfl, rfl⟩
  intro made after rules grows missing fits lasts
  have same : after.ruleSets = workshop.ruleSets := by rw [grows.rest]
  rw [← same] at missing
  exact ⟨⟨Std.Refl.refl _, fun _ _ found => lookup_cons_of_missing missing found made,
    fun _ _ => id⟩, fun sound => ⟨sound.ruleSets.cons fits lasts, sound.composerRuleSets,
      sound.romanizers, sound.composers, sound.orders⟩⟩

theorem comes_composerRuleSet (sound : workshop.Sound orders) (obsolete : Choice) :
    Steps.Comes (Advances orders) workshop (composerRuleSet obsolete)
      (fun made after rules =>
        Lasts made after.forest rules ∧ after.composerRuleSets.lookup obsolete = some made)
      (ComposerRules.standard.compile obsolete) := by
  unfold composerRuleSet
  refine comes_kept sound.composerRuleSets (comes_published ?_)
    (fun _ => Grows.advances) ?_ fun _ _ => ⟨rfl, rfl⟩
  · intro rules compiled
    exact StoredComposerRuleSet.comes_publish (ComposerRules.frozen_of_compile compiled)
  intro made after rules grows missing fits lasts
  have same : after.composerRuleSets = workshop.composerRuleSets := by rw [grows.rest]
  rw [← same] at missing
  exact ⟨⟨Std.Refl.refl _, fun _ _ => id,
    fun _ _ found => lookup_cons_of_missing missing found made⟩, fun sound =>
      ⟨sound.ruleSets, sound.composerRuleSets.cons fits lasts, sound.romanizers, sound.composers,
        sound.orders⟩⟩

theorem comes_newRomanizer (sound : workshop.Sound orders) (method : Method)
    (upcaseKatakana : Choice) (mapping : Option (Mapping Text)) :
    Steps.Comes (Advances orders) workshop (newRomanizer method upcaseKatakana mapping)
      (fun made after romanizer => Lasts made after.forest romanizer)
      ((RomanizationRules.ofMethod method).compile >>= fun rules =>
        Romanizer.create rules upcaseKatakana mapping) := by
  refine (comes_ruleSet sound method).bind _ ?_
  rintro stored between rules - ⟨lasts, -⟩ -
  exact (comes_inForest (StoredRomanizer.comes_create lasts upcaseKatakana mapping)).weaken
    (fun _ => Grows.advances) fun _ _ _ _ => id

theorem comes_newComposer (sound : workshop.Sound orders) (obsolete : Choice)
    (mapping : Option (Mapping Text)) :
    Steps.Comes (Advances orders) workshop (newComposer obsolete mapping)
      (fun made after composer => Lasts made after.forest composer)
      (ComposerRules.standard.compile obsolete >>= fun rules =>
        Composer.create rules mapping) := by
  refine (comes_composerRuleSet sound obsolete).bind _ ?_
  rintro stored between rules - ⟨lasts, -⟩ -
  exact (comes_inForest (StoredComposer.comes_create lasts mapping)).weaken
    (fun _ => Grows.advances) fun _ _ _ _ => id

theorem comes_romanizer (sound : workshop.Sound orders) (method : Method) :
    Steps.Comes (Advances orders) workshop (romanizer method)
      (fun made after content => Lasts made after.forest content ∧
        after.romanizers.lookup method = some made) (Romanizer.plain method) := by
  unfold romanizer
  refine comes_kept sound.romanizers (comes_newRomanizer sound method (some false) none)
    (fun _ => id) ?_ fun _ _ => ⟨rfl, rfl⟩
  intro made after content _ _ fits lasts
  exact ⟨⟨Std.Refl.refl _, fun _ _ => id, fun _ _ => id⟩, fun sound => ⟨sound.ruleSets,
    sound.composerRuleSets, sound.romanizers.cons fits lasts, sound.composers, sound.orders⟩⟩

theorem comes_composer (sound : workshop.Sound orders) (obsolete : Bool) :
    Steps.Comes (Advances orders) workshop (composer obsolete)
      (fun made after content => Lasts made after.forest content ∧
        after.composers.lookup obsolete = some made) (Composer.plain obsolete) := by
  unfold composer
  refine comes_kept sound.composers (comes_newComposer sound (some obsolete) none) (fun _ => id)
    ?_ fun _ _ => ⟨rfl, rfl⟩
  intro made after content _ _ fits lasts
  exact ⟨⟨Std.Refl.refl _, fun _ _ => id, fun _ _ => id⟩, fun sound => ⟨sound.ruleSets,
    sound.composerRuleSets, sound.romanizers, sound.composers.cons fits lasts, sound.orders⟩⟩

theorem comes_make (sound : workshop.Sound orders) (order : Order) :
    Steps.Comes (Advances orders) workshop (make order)
      (fun made after converter => Lasts made after.forest converter) order.expected := by
  cases order with
  | romanizer method upcaseKatakana mapping =>
      refine (Steps.Comes.lift (Method.parse method)).bind _ ?_
      rintro method between _ advances rfl -
      refine (comes_newRomanizer (advances.sound sound) method upcaseKatakana mapping).bind _ ?_
      rintro made after romanizer - lasts -
      exact .pure ⟨lasts.lasting, congrArg Converter.romanizer lasts.read⟩
  | composer obsolete mapping =>
      refine (comes_newComposer sound obsolete mapping).bind _ ?_
      rintro made after composer - lasts -
      exact .pure ⟨lasts.lasting, congrArg Converter.composer lasts.read⟩

theorem comes_outcome {steps : ForestM Text Report} {report : Report}
    (comes : Steps.Comes Forest.Keeps workshop.forest steps
      (fun told _ expected => told = expected) (.ok report)) :
    Steps.Comes (Advances orders) workshop (do (← inForest steps).outcome)
      (fun text _ expected => text = expected) report.outcome := by
  have told : Steps.Comes (Advances orders) workshop (inForest steps)
      (fun told _ expected => told = expected) (.ok report) :=
    (comes_inForest comes).weaken (fun _ => Grows.advances) fun _ _ _ _ => id
  refine told.bind Report.outcome ?_
  rintro _ after expected - rfl -
  exact .lift _

theorem comes_toRomaji (sound : workshop.Sound orders) (asked : Conversion) (method : Datum) :
    Steps.Comes (Advances orders) workshop (toRomaji asked method)
      (fun text _ expected => text = expected)
      (Transliteration.romajiOf asked.text method asked.upcaseKatakana asked.mapping) := by
  refine (Steps.Comes.lift (Method.parse method)).bind _ ?_
  rintro method between _ advances rfl -
  refine (comes_romanizer (advances.sound sound) method).bind _ ?_
  rintro stored after romanizer - ⟨lasts, -⟩ -
  exact comes_outcome (StoredRomanizer.comes_convert lasts _ _ _)

theorem comes_toKana (sound : workshop.Sound orders) (text : Text) (obsolete : Bool)
    (mapping : Option (Mapping Text)) :
    Steps.Comes (Advances orders) workshop (toKana text obsolete mapping)
      (fun text _ expected => text = expected) (Transliteration.kanaOf text obsolete mapping) := by
  refine (comes_composer sound obsolete).bind _ ?_
  rintro stored after composer - ⟨lasts, -⟩ -
  exact comes_outcome (StoredComposer.comes_convert lasts _ _)

theorem comes_toHiragana (sound : workshop.Sound orders) (text : Text)
    (passRomaji obsolete : Bool) :
    Steps.Comes (Advances orders) workshop (toHiragana text passRomaji obsolete)
      (fun text _ expected => text = expected)
      (if text.isEmpty ∨ passRomaji then .ok (Kana.toHiragana text)
        else Transliteration.kanaOf (Text.lower (Kana.toHiragana text)) obsolete none) := by
  unfold toHiragana
  dsimp only
  split
  · exact .pure rfl
  · exact comes_toKana sound _ obsolete none

theorem comes_toKatakana (sound : workshop.Sound orders) (text : Text)
    (passRomaji obsolete : Bool) :
    Steps.Comes (Advances orders) workshop (toKatakana text passRomaji obsolete)
      (fun text _ expected => text = expected)
      (if text.isEmpty ∨ passRomaji then .ok (Kana.toKatakana text)
        else do
          return Kana.toKatakana (← Transliteration.kanaOf (Text.upper text) obsolete none)) := by
  unfold toKatakana
  split
  · exact .pure rfl
  · refine (comes_toKana sound _ obsolete none).bind _ ?_
    rintro kana after _ - rfl -
    exact .pure rfl

end Workshop
end Honji
