import Honji.Proofs.Composer.Standard
import Honji.Proofs.Romanization.Compiled
import Honji.Proofs.Workshop.Keeping

/-!
Calls do not disturb one another. Every answer is given by the call itself and by what its converter
was made from, as in a workshop where nothing was asked before, and it is what the registry and its
converters come to. The rules of a method or a spelling stay the same ever after.
-/

namespace Honji

open Planted (Lasts)

/-! ### What calls come to -/

def Conversion.report (asked : Conversion) (made : Option (Except Failure Converter)) : Report :=
  match made with
  | some (.ok converter) => converter.convert asked
  | _ => .blank

namespace Call

def expected (orders : List Order) : Call → Report
  | .ruleSet method =>
      ⟨do return (← (RomanizationRules.ofMethod (← Method.parse method)).compile).method.name, []⟩
  | .composerRuleSet obsolete =>
      ⟨do return (Datum.ofChoice (← ComposerRules.standard.compile obsolete).obsoleteKana).shown,
        []⟩
  | .order wanted => ⟨wanted.expected.map Converter.name, wanted.notices⟩
  | .convert number asked => asked.report (orders[number]?.map Order.expected)
  | .toRomaji asked method =>
      ⟨Transliteration.romajiOf asked.text method asked.upcaseKatakana asked.mapping, []⟩
  | .toKana text obsolete mapping => ⟨Transliteration.kanaOf text obsolete mapping, []⟩
  | .toHiragana text passRomaji obsolete =>
      ⟨if text.isEmpty ∨ passRomaji then .ok (Kana.toHiragana text)
        else Transliteration.kanaOf (Text.lower (Kana.toHiragana text)) obsolete none, []⟩
  | .toKatakana text passRomaji obsolete =>
      ⟨if text.isEmpty ∨ passRomaji then .ok (Kana.toKatakana text)
        else do
          return Kana.toKatakana (← Transliteration.kanaOf (Text.upper text) obsolete none), []⟩

end Call

namespace Workshop
variable {orders : List Order} {workshop : Workshop}

theorem comes_silent {steps : WorkshopM Text} {expected : Except Failure Text}
    (comes : Steps.Comes (Advances orders) workshop steps (fun text _ value => text = value)
      expected) :
    Steps.Comes (Advances orders) workshop (Call.silent steps)
      (fun report _ value => report = value) (.ok ⟨expected, []⟩) := by
  refine comes.attempt.bind (fun outcome => .ok (⟨outcome, []⟩ : Report)) ?_
  rintro outcome after _ - agree -
  obtain rfl := agree.eq
  exact .pure rfl

theorem rel_getElem? {α β : Type} {related : α → β → Prop} {ones : List α} {others : List β}
    (all : List.Forall₂ related ones others) (number : Nat) :
    Option.Rel related ones[number]? others[number]? := by
  induction all generalizing number with
  | nil => exact .none
  | cons here _ ih =>
      cases number with
      | zero => exact .some here
      | succ number => exact ih number

theorem comes_convert (sound : workshop.Sound orders) (number : Nat) (asked : Conversion) :
    Steps.Comes (Advances orders) workshop (convert number asked)
      (fun report _ expected => report = expected)
      (.ok (asked.report (orders[number]?.map Order.expected))) := by
  have placed := rel_getElem? sound.orders number
  refine .congr (Steps.run_bind_of_ok (Steps.run_get workshop)) ?_
  generalize orders[number]? = order, workshop.orders[number]? = outcome at placed
  cases placed with
  | none => exact .pure rfl
  | @some order outcome agree =>
      rw [Option.map_some]
      generalize order.expected = wanted at agree
      cases agree with
      | error failure => exact .pure rfl
      | ok lasts =>
          exact (comes_inForest (StoredConverter.comes_convert lasts asked)).weaken
            (fun _ => Grows.advances) fun _ _ _ _ => id

theorem sound_place (sound : workshop.Sound orders) (order : Order) : ∃ after,
    Steps.run (place order) workshop =
        (.ok ⟨order.expected.map Converter.name, order.notices⟩, after) ∧
      workshop.Leads after ∧ after.Sound (orders ++ [order]) := by
  cases (comes_make sound order).attempt with
  | @ok outcome between _ ran advances agree =>
      have named : (outcome.map fun converter => (converter.read between.forest).name) =
          order.expected.map Converter.name := by
        generalize order.expected = wanted at agree
        cases agree with
        | ok lasts => rw [← lasts.read]; rfl
        | error failure => rfl
      have kept := advances.sound sound
      refine ⟨{ between with orders := between.orders ++ [outcome] }, ?_, ?_, ?_⟩
      · rw [← named]
        exact Steps.run_bind_of_ok ran
      · exact ⟨advances.leads.forest, advances.leads.ruleSets, advances.leads.composerRuleSets⟩
      · exact ⟨kept.ruleSets, kept.composerRuleSets, kept.romanizers, kept.composers,
          List.rel_append kept.orders (.cons agree .nil)⟩

theorem Sound.serve (sound : workshop.Sound orders) (call : Call) :
    workshop.answer call = .ok (call.expected orders) ∧ workshop.Leads (workshop.serve call) ∧
      (workshop.serve call).Sound (orders ++ call.placed) := by
  have settled {steps : WorkshopM Report} {report : Report}
      (comes : Steps.Comes (Advances orders) workshop steps (fun told _ value => told = value)
        (.ok report)) : (Steps.run steps workshop).1 = .ok report ∧
          workshop.Leads (Steps.run steps workshop).2 ∧
            (Steps.run steps workshop).2.Sound (orders ++ []) := by
    cases comes with
    | ok ran later same =>
        rw [ran, List.append_nil, same]
        exact ⟨rfl, later.leads, later.sound sound⟩
  cases call with
  | ruleSet method =>
      refine settled (comes_silent ?_)
      refine (Steps.Comes.lift (Method.parse method)).bind _ ?_
      rintro method between _ advances rfl -
      refine (comes_ruleSet (advances.sound sound) method).bind _ ?_
      rintro stored after rules - ⟨lasts, -⟩ -
      exact .pure (by rw [← lasts.read]; rfl)
  | composerRuleSet obsolete =>
      refine settled (comes_silent ?_)
      refine (comes_composerRuleSet sound obsolete).bind _ ?_
      rintro stored after rules - ⟨lasts, -⟩ -
      exact .pure (by rw [← lasts.read]; rfl)
  | order wanted =>
      -- the only call after which there is an order more, even if nothing could be made of it
      obtain ⟨after, ran, leads, next⟩ := sound_place sound wanted
      rw [answer, Workshop.serve, Call.act, ran]
      exact ⟨rfl, leads, next⟩
  | convert number asked => exact settled (comes_convert sound number asked)
  | toRomaji asked method => exact settled (comes_silent (comes_toRomaji sound asked method))
  | toKana text obsolete mapping =>
      exact settled (comes_silent (comes_toKana sound text obsolete mapping))
  | toHiragana text passRomaji obsolete =>
      exact settled (comes_silent (comes_toHiragana sound text passRomaji obsolete))
  | toKatakana text passRomaji obsolete =>
      exact settled (comes_silent (comes_toKatakana sound text passRomaji obsolete))

theorem Sound.serveAll (sound : workshop.Sound orders) (calls : List Call) :
    workshop.Leads (workshop.serveAll calls) ∧
      (workshop.serveAll calls).Sound (orders ++ calls.flatMap Call.placed) := by
  induction calls generalizing workshop orders with
  | nil => exact ⟨.refl workshop, by simpa [Workshop.serveAll] using sound⟩
  | cons call calls ih =>
      obtain ⟨-, leads, next⟩ := sound.serve call
      obtain ⟨further, last⟩ := ih next
      exact ⟨leads.trans further, by simpa [Workshop.serveAll] using last⟩

end Workshop

/-! ### What the registry comes to -/

namespace Call

def ofRegistry (registry : Registry) (orders : List Order) : Call → Report
  | .ruleSet method => ⟨(Steps.run (do
      return (← Registry.ruleSet (← Method.parse method)).content.method.name) registry).1, []⟩
  | .composerRuleSet obsolete => ⟨(Steps.run (do
      return (Datum.ofChoice (← Registry.composerRuleSet obsolete).content.obsoleteKana).shown)
        registry).1, []⟩
  | .order wanted => ⟨(Steps.run wanted.make registry).1.map Converter.name, wanted.notices⟩
  | .convert number asked =>
      asked.report (orders[number]?.map fun order => (Steps.run order.make registry).1)
  | .toRomaji asked method => ⟨(Steps.run (Transliteration.toRomaji asked.text method
      asked.upcaseKatakana asked.mapping) registry).1, []⟩
  | .toKana text obsolete mapping =>
      ⟨(Steps.run (Transliteration.toKana text obsolete mapping) registry).1, []⟩
  | .toHiragana text passRomaji obsolete =>
      ⟨(Steps.run (Transliteration.toHiragana text passRomaji obsolete) registry).1, []⟩
  | .toKatakana text passRomaji obsolete =>
      ⟨(Steps.run (Transliteration.toKatakana text passRomaji obsolete) registry).1, []⟩

open Registry Transliteration in
theorem yields_make (order : Order) : Yields order.make id order.expected := by
  cases order with
  | romanizer method upcaseKatakana mapping =>
      simp only [Order.make, Order.expected]
      refine (Yields.returned (Method.parse method)).bind (fun method => do
        let made ← (RomanizationRules.ofMethod method).compile >>= fun rules =>
          Romanizer.create rules upcaseKatakana mapping
        return Converter.romanizer made) fun method _ => ?_
      refine (yields_newRomanizer method upcaseKatakana mapping).bind
        (fun made => pure (Converter.romanizer made)) fun made _ => ?_
      exact Yields.pure (Converter.romanizer made) id
  | composer obsolete mapping =>
      simp only [Order.make, Order.expected]
      refine (yields_newComposer obsolete mapping).bind
        (fun made => pure (Converter.composer made)) fun made _ => ?_
      exact Yields.pure (Converter.composer made) id

open Registry in
theorem yields_ruleSetName (method : Datum) :
    Yields (do return (← Registry.ruleSet (← Method.parse method)).content.method.name) id
      (do return (← (RomanizationRules.ofMethod (← Method.parse method)).compile).method.name) := by
  refine (Yields.returned (Method.parse method)).bind (fun method => do
    return (← (RomanizationRules.ofMethod method).compile).method.name) fun method _ => ?_
  refine (yields_ruleSet method).bind (fun rules => pure rules.method.name) fun rules _ => ?_
  exact Yields.pure rules.content.method.name id

open Registry in
theorem yields_composerRuleSetName (obsolete : Choice) :
    Yields (do
        return (Datum.ofChoice (← Registry.composerRuleSet obsolete).content.obsoleteKana).shown) id
      (do
        return (Datum.ofChoice (← ComposerRules.standard.compile obsolete).obsoleteKana).shown) := by
  refine (yields_composerRuleSet obsolete).bind
    (fun rules => pure (Datum.ofChoice rules.obsoleteKana).shown) fun rules _ => ?_
  exact Yields.pure (Datum.ofChoice rules.content.obsoleteKana).shown id

open Registry Transliteration in
theorem ofRegistry_after (requests : List Request) (orders : List Order) (call : Call) :
    call.ofRegistry (Registry.after requests) orders = call.expected orders := by
  have outcome {α : Type} {steps : RegistryM α} {expected : Except Failure α}
      (yields : Yields steps id expected) :
      (Steps.run steps (Registry.after requests)).1 = expected := by
    simpa using (yields _ (consistent_after requests)).1
  cases call with
  | ruleSet method => rw [ofRegistry, outcome (yields_ruleSetName method), expected]
  | composerRuleSet obsolete =>
      rw [ofRegistry, outcome (yields_composerRuleSetName obsolete), expected]
  | order wanted => rw [ofRegistry, outcome (yields_make wanted), expected]
  | convert number asked =>
      simp only [ofRegistry, outcome (yields_make _), expected]
  | toRomaji asked method => rw [ofRegistry, outcome (yields_toRomaji _ _ _ _), expected]
  | toKana text obsolete mapping => rw [ofRegistry, outcome (yields_toKana _ _ _), expected]
  | toHiragana text passRomaji obsolete =>
      rw [ofRegistry, outcome (yields_toHiragana _ _ _), expected]
  | toKatakana text passRomaji obsolete =>
      rw [ofRegistry, outcome (yields_toKatakana _ _ _), expected]

def alone (orders : List Order) : Call → Except Failure Report
  | .convert number asked =>
      match orders[number]? with
      | some wanted => (Workshop.fresh.serve (.order wanted)).answer (.convert 0 asked)
      | none => .ok .blank
  | call => Workshop.fresh.answer call

theorem alone_eq (orders : List Order) (call : Call) :
    call.alone orders = .ok (call.expected orders) := by
  have fresh (call : Call) : Workshop.fresh.answer call = .ok (call.expected []) :=
    (Workshop.sound_fresh.serve call).1
  cases call with
  | convert number asked =>
      rw [alone, expected]
      cases orders[number]? with
      | none => rfl
      | some wanted =>
          -- the converter is number 0 where nothing else was ordered
          have made := (Workshop.sound_fresh.serve (.order wanted)).2.2
          exact (made.serve (.convert 0 asked)).1
  | _ => exact fresh _

end Call

namespace Workshop
variable {orders : List Order} {workshop : Workshop}

theorem Sound.ever_after {τ β : Type} [Planted τ β] (sound : workshop.Sound orders)
    {steps : WorkshopM τ} {content : β} {found : Workshop → τ → Prop}
    (comes : Steps.Comes (Advances orders) workshop steps
      (fun made after content => Lasts made after.forest content ∧ found after made) (.ok content))
    (persists : ∀ before after made, before.Leads after → found before made → found after made)
    (again : ∀ workshop made, found workshop made →
      Steps.run steps workshop = (.ok made, workshop)) :
    ∃ stored first, Steps.run steps workshop = (.ok stored, first) ∧ ∀ calls,
      Steps.run steps (first.serveAll calls) = (.ok stored, first.serveAll calls) ∧
        Lasts stored (first.serveAll calls).forest content := by
  cases comes with
  | @ok stored first _ ran advances kept =>
      obtain ⟨lasts, here⟩ := kept
      refine ⟨stored, first, ran, fun calls => ?_⟩
      have leads := ((advances.sound sound).serveAll calls).1
      exact ⟨again _ stored (persists _ _ stored leads here), lasts.keep leads.forest⟩

theorem serve_silent {call : Call} {steps : WorkshopM Text} (acts : call.act = Call.silent steps)
    {outcome : Except Failure Text} {after : Workshop}
    (ran : Steps.run steps workshop = (outcome, after)) : workshop.serve call = after := by
  rw [serve, acts, Call.silent, Steps.run_bind_of_ok (Steps.run_attempt steps workshop), ran]
  rfl

/--
What no history of calls can change: each call is answered as it would be alone, which is what a
registry comes to after any requests; and each method and each spelling has one rule set ever
after, in the same frozen nodes and with the rules that are compiled from the tables.
-/
structure Undisturbed (workshop : Workshop) (orders : List Order) : Prop where
  alone : ∀ call, workshop.answer call = call.alone orders
  registry : ∀ call requests,
    workshop.answer call = .ok (call.ofRegistry (Registry.after requests) orders)
  ruleSets : ∀ value method, Method.parse value = .ok method → ∃ stored rules,
    (RomanizationRules.ofMethod method).compile = .ok rules ∧
      Steps.run (ruleSet method) workshop = (.ok stored, workshop.serve (.ruleSet value)) ∧
        ∀ calls, let later := (workshop.serve (.ruleSet value)).serveAll calls
          Steps.run (ruleSet method) later = (.ok stored, later) ∧ Lasts stored later.forest rules
  composerRuleSets : ∀ obsolete, ∃ stored rules,
    ComposerRules.standard.compile obsolete = .ok rules ∧
      Steps.run (composerRuleSet obsolete) workshop =
          (.ok stored, workshop.serve (.composerRuleSet obsolete)) ∧
        ∀ calls, let later := (workshop.serve (.composerRuleSet obsolete)).serveAll calls
          Steps.run (composerRuleSet obsolete) later = (.ok stored, later) ∧
            Lasts stored later.forest rules

theorem Sound.undisturbed (sound : workshop.Sound orders) : workshop.Undisturbed orders where
  alone := fun call => by rw [(sound.serve call).1, call.alone_eq]
  registry := fun call requests => by rw [(sound.serve call).1, call.ofRegistry_after]
  ruleSets := fun value method parsed => by
    obtain ⟨rules, compiled, -⟩ := (RomanizationRules.ofMethod_wellFormed method).compile_holds
    have comes := comes_ruleSet sound method
    rw [compiled] at comes
    obtain ⟨stored, first, ran, ever⟩ := sound.ever_after comes
      (fun _ _ made leads => leads.ruleSets method made) fun _ _ => run_kept_of_lookup
    have named : Steps.run (do return (← ruleSet (← Method.parse value)).method.name) workshop =
        (.ok stored.method.name, first) := by
      rw [parsed]
      exact Steps.run_bind_of_ok ran
    rw [serve_silent rfl named]
    exact ⟨stored, rules, compiled, ran, ever⟩
  composerRuleSets := fun obsolete => by
    obtain ⟨rules, compiled, -⟩ := ComposerRules.exists_standard obsolete
    have comes := comes_composerRuleSet sound obsolete
    rw [compiled] at comes
    obtain ⟨stored, first, ran, ever⟩ := sound.ever_after comes
      (fun _ _ made leads => leads.composerRuleSets obsolete made) fun _ _ => run_kept_of_lookup
    have named : Steps.run (do
        return (Datum.ofChoice (← composerRuleSet obsolete).obsoleteKana).shown) workshop =
          (.ok (Datum.ofChoice stored.obsoleteKana).shown, first) := Steps.run_bind_of_ok ran
    rw [serve_silent rfl named]
    exact ⟨stored, rules, compiled, ran, ever⟩

/-- Calls do not disturb one another, whatever was asked before and whether it failed or not. -/
theorem undisturbed_serveAll (calls : List Call) :
    (fresh.serveAll calls).Undisturbed (calls.flatMap Call.placed) := by
  simpa using (sound_fresh.serveAll calls).2.undisturbed

end Workshop
end Honji
