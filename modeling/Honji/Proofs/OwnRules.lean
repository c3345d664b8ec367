import Honji.Proofs.Composer.Standard
import Honji.Proofs.Romanization.Converter
import Honji.Proofs.Trie.Forms

/-!
A caller's rules in all their forms, wherever they can be given: laid over a trie, to the
converters, and to the facades.
-/

namespace Honji
open Mapping

def Mapping.Agreed {α β : Type} [Token α] (caseInsensitive : Bool) (pairs : List (Text × α))
    (use : Mapping α → Except Failure β) : Prop :=
  ∃ result, ∀ mapping, Form caseInsensitive pairs mapping → use mapping = .ok result

section
variable {pairs : List (Text × Text)} (filled : ∀ pair ∈ pairs, pair.1 ≠ [])
  (distinct : (pairs.map Prod.fst).Nodup)
include filled distinct

theorem Trie.agreed_pieces (base : Trie Text) (resolve : Resolver Text) (text : Text) :
    Agreed base.caseInsensitive pairs fun mapping => base.pieces resolve (some mapping) text := by
  obtain ⟨laid, same⟩ := base.overlay_form filled distinct resolve
  refine ⟨if text.isEmpty then [] else laid.tokenize text, fun mapping form => ?_⟩
  simp only [pieces, same mapping form]
  split <;> rfl

namespace Romanizer

theorem agreed_create {ruleSet : RuleSet} (caseSensitive : ruleSet.trie.caseInsensitive = false)
    (upcaseKatakana : Choice) :
    Agreed false pairs fun mapping => create ruleSet upcaseKatakana (some mapping) := by
  obtain ⟨laid, same⟩ := ruleSet.trie.overlay_form filled distinct Resolver.ruled
  rw [caseSensitive] at same
  refine ⟨⟨ruleSet, laid.freeze, true, upcaseKatakana⟩, fun mapping form => ?_⟩
  simp only [create, same mapping form]
  rfl

theorem agreed_convert {romanizer : Romanizer}
    (caseSensitive : romanizer.active.caseInsensitive = false) (text : Text) (choice : Choice) :
    Agreed false pairs fun mapping => (romanizer.convert text choice (some mapping)).outcome := by
  obtain ⟨made, same⟩ := romanizer.active.agreed_pieces filled distinct Resolver.ruled text
  rw [caseSensitive] at same
  refine ⟨if text.isEmpty then []
    else made.flatMap (if romanizer.capitalizes choice then capitalized else Match.token),
    fun mapping form => ?_⟩
  simp only [convert, pieces, same mapping form]
  split <;> rfl

end Romanizer

namespace Composer

theorem agreed_create {ruleSet : ComposerRuleSet}
    (alike : ruleSet.hiragana.Alike ruleSet.katakana)
    (ignores : ruleSet.hiragana.caseInsensitive = true) :
    Agreed true pairs fun mapping => create ruleSet (some mapping) := by
  obtain ⟨laid, same⟩ := ruleSet.hiragana.overlay_form filled distinct Resolver.ruled
  obtain ⟨other, also⟩ := ruleSet.katakana.overlay_form filled distinct Resolver.ruled
  rw [ignores] at same
  rw [← alike.caseInsensitive, ignores] at also
  refine ⟨⟨ruleSet, laid.freeze, other.freeze, true⟩, fun mapping form => ?_⟩
  simp only [create, same mapping form, also mapping form]
  rfl

omit filled distinct in
theorem exists_plain_paired (obsolete : Bool) :
    ∃ composer, plain obsolete = .ok composer ∧ composer.Paired := by
  rcases ComposerRules.makeComposer_standard (some obsolete) none with ⟨empty, -⟩ | ⟨-, made⟩
  · simp [Mapping.pathsOf] at empty
  · exact made

theorem Paired.agreed_convert {composer : Composer} (paired : composer.Paired) (text : Text) :
    Agreed true pairs fun mapping => (composer.convert text (some mapping)).outcome := by
  obtain ⟨laid, same⟩ := composer.hiragana.overlay_form filled distinct Resolver.ruled
  obtain ⟨other, also⟩ := composer.katakana.overlay_form filled distinct Resolver.ruled
  rw [paired.ignores] at same
  rw [← paired.alike.caseInsensitive, paired.ignores] at also
  refine ⟨if text.isEmpty then [] else compose laid other text, fun mapping form => ?_⟩
  cases text with
  | nil => rfl
  | cons character rest =>
      have active : composer.active (some mapping) = .ok (laid, other) := by
        rw [active, same mapping form, also mapping form]
        rfl
      simp only [convert, pieces_of_active active]
      rfl

end Composer
end

/-! ### Converters and facades -/

namespace Registry

theorem run_newRomanizer (history : List Request) (method : Method) (upcaseKatakana : Choice)
    (own : Option (Mapping Text)) :
    (Steps.run (newRomanizer method upcaseKatakana own) (after history)).1 =
      ((RomanizationRules.ofMethod method).compile >>= fun rules =>
        Romanizer.create rules upcaseKatakana own) := by
  have yields := (yields_newRomanizer method upcaseKatakana own _ (consistent_after history)).1
  rwa [Except.map_id] at yields

theorem caseInsensitive_of_newRomanizer {history : List Request} {method : Method}
    {upcaseKatakana : Choice} {own : Option (Mapping Text)} {romanizer : Romanizer}
    (made : (Steps.run (newRomanizer method upcaseKatakana own) (after history)).1 =
      .ok romanizer) : romanizer.active.caseInsensitive = false := by
  obtain ⟨ruleSet, compiled, -, -, caseSensitive, -⟩ :=
    (RomanizationRules.ofMethod_wellFormed method).compile_holds
  rw [run_newRomanizer] at made
  obtain ⟨_, same, made⟩ := Steps.bind_eq_ok.1 made
  obtain rfl := Except.ok.inj (compiled.symm.trans same)
  obtain ⟨active, given, made⟩ := Steps.bind_eq_ok.1 made
  obtain rfl := Except.ok.inj made
  have same : active.caseInsensitive = ruleSet.trie.caseInsensitive :=
    Trie.caseInsensitive_of_overlay given
  exact same.trans caseSensitive

theorem paired_of_newComposer {history : List Request} {obsolete : Choice}
    {own : Option (Mapping Text)} {composer : Composer}
    (made : (Steps.run (newComposer obsolete own) (after history)).1 = .ok composer) :
    composer.Paired := by
  rw [run_newComposer] at made
  rcases ComposerRules.makeComposer_standard obsolete own with
    ⟨-, refused⟩ | ⟨-, other, same, paired⟩
  · simp [refused] at made
  · obtain rfl := Except.ok.inj (same.symm.trans made)
    exact paired

end Registry
open Registry Transliteration

/--
The rules of a list are taken in every form: over any trie, by new converters, in a call of a
converter that was made before, and by the facades. What comes of it does not depend on the form.
-/
structure Mapping.Interchangeable (pairs : List (Text × Text)) : Prop where
  tries : ∀ mapping, Listing pairs mapping → ∀ manner, ∃ layer, mapping.toTrie manner = .ok layer
  overlay : ∀ (base : Trie Text) resolve, Agreed base.caseInsensitive pairs fun mapping =>
    base.overlay resolve (some mapping)
  pieces : ∀ (base : Trie Text) resolve text, Agreed base.caseInsensitive pairs fun mapping =>
    base.pieces resolve (some mapping) text
  madeRomanizer : ∀ history method upcaseKatakana, Agreed false pairs fun mapping =>
    (Steps.run (newRomanizer method upcaseKatakana (some mapping)) (after history)).1
  romanizer : ∀ history method upcaseKatakana own romanizer,
    (Steps.run (newRomanizer method upcaseKatakana own) (after history)).1 = .ok romanizer →
      ∀ text choice, Agreed false pairs fun mapping =>
        (romanizer.convert text choice (some mapping)).outcome
  toRomaji : ∀ history text named method choice, Method.parse named = .ok method →
    Agreed false pairs fun mapping =>
      (Steps.run (toRomaji text named choice (some mapping)) (after history)).1
  madeComposer : ∀ history obsolete, Agreed true pairs fun mapping =>
    (Steps.run (newComposer obsolete (some mapping)) (after history)).1
  composer : ∀ history obsolete own composer,
    (Steps.run (newComposer obsolete own) (after history)).1 = .ok composer →
      ∀ text, Agreed true pairs fun mapping => (composer.convert text (some mapping)).outcome
  toKana : ∀ history text obsolete, Agreed true pairs fun mapping =>
    (Steps.run (toKana text obsolete (some mapping)) (after history)).1

/-- Rules with distinct paths that are not empty are interchangeable in their forms. -/
theorem Mapping.interchangeable {pairs : List (Text × Text)} (filled : ∀ pair ∈ pairs, pair.1 ≠ [])
    (distinct : (pairs.map Prod.fst).Nodup) : Interchangeable pairs where
  tries := fun mapping listing manner => by
    obtain ⟨_, built, -⟩ := exists_root filled manner manner fun _ _ _ _ => rfl
    exact ⟨_, (listing.toTrie_eq distinct manner).trans built⟩
  overlay := fun base resolve => base.overlay_form filled distinct resolve
  pieces := fun base resolve text => base.agreed_pieces filled distinct resolve text
  madeRomanizer := fun history method upcaseKatakana => by
    obtain ⟨ruleSet, compiled, -, -, caseSensitive, -⟩ :=
      (RomanizationRules.ofMethod_wellFormed method).compile_holds
    simp only [run_newRomanizer, compiled]
    exact Romanizer.agreed_create filled distinct caseSensitive upcaseKatakana
  romanizer := fun history method upcaseKatakana own romanizer made text choice =>
    Romanizer.agreed_convert filled distinct (caseInsensitive_of_newRomanizer made) text choice
  toRomaji := fun history text named method choice parsed => by
    obtain ⟨romanizer, plain, -, caseSensitive, -⟩ := Romanizer.plain_holds method
    have made (mapping : Mapping Text) : romajiOf text named choice (some mapping) =
        (romanizer.convert text choice (some mapping)).outcome := by
      rw [romajiOf, parsed]
      exact congrArg (· >>= fun romanizer =>
        (romanizer.convert text choice (some mapping)).outcome) plain
    simp only [run_toRomaji, made]
    exact Romanizer.agreed_convert filled distinct caseSensitive text choice
  madeComposer := fun history obsolete => by
    obtain ⟨ruleSet, compiled, alike, ignores⟩ := ComposerRules.exists_standard obsolete
    simp only [run_newComposer, ComposerRules.makeComposer, compiled]
    exact Composer.agreed_create filled distinct alike ignores
  composer := fun history obsolete own composer made text =>
    (paired_of_newComposer made).agreed_convert filled distinct text
  toKana := fun history text obsolete => by
    obtain ⟨composer, made, paired⟩ := Composer.exists_plain_paired obsolete
    simp only [run_toKana, kanaOf, made]
    exact paired.agreed_convert filled distinct text

theorem Mapping.interchangeable_capital :
    Interchangeable [("K".toList, "x".toList), ("いぬ".toList, "dog".toList)] ∧
      ∃ layer, (Mapping.sequence [(.text "K".toList, "x".toList),
          (.text "いぬ".toList, "dog".toList)]).toTrie true = .ok layer ∧
        Form true [("K".toList, "x".toList), ("いぬ".toList, "dog".toList)] (.trie layer) := by
  have same : Interchangeable [("K".toList, "x".toList), ("いぬ".toList, "dog".toList)] :=
    interchangeable (by decide) (by decide)
  obtain ⟨layer, built⟩ := same.tries _ .sequence true
  exact ⟨same, layer, built, .trie .sequence built fun _ _ _ _ => rfl⟩

/--
A trie that stores capitals as they stand is another matter: laid over one that ignores case, its
rules for capitals are never found.
-/
theorem Mapping.capital_lost :
    ∃ layer, (Mapping.sequence [(.text "K".toList, "x".toList)]).toTrie false = .ok layer ∧
      ((Trie.empty true []).pieces Resolver.ruled
          (some (.sequence [(.text "K".toList, "x".toList)])) "K".toList).map
        (·.flatMap Match.token) = .ok "x".toList ∧
      ((Trie.empty true []).pieces Resolver.ruled (some (.trie layer)) "K".toList).map
        (·.flatMap Match.token) = .ok "K".toList := by
  exact ⟨_, rfl, rfl, rfl⟩

end Honji
