import Honji.Proofs.Composer.Standard
import Honji.Proofs.Reports
import Honji.Proofs.Trie.SideBySide

/-!
Case chooses the script and nothing else. Texts whose characters have the same small letters are
cut into kana at the same places, with an event at the same places, although each piece is looked
up in the trie of one script for one text and maybe in that of the other script for the other.
-/

namespace Honji

def Text.SameLetters : Text → Text → Prop :=
  List.Forall₂ fun one other => Text.lower [one] = Text.lower [other]

namespace Composer

/--
A call treats two texts alike: it refuses its own rules for both, or else it cuts both at the same
places by matches of the same kinds, and reports events at the same places.
-/
inductive CutsAlike (composer : Composer) (call : Option (Mapping Text)) (first second : Text) : Prop
  | refused (empty : [] ∈ Mapping.pathsOf call)
      (one : composer.convert first call = ⟨.error .emptyPath, []⟩)
      (other : composer.convert second call = ⟨.error .emptyPath, []⟩)
  | cut (pieces others : List (Match Text)) (one : composer.pieces call first = .ok pieces)
      (other : composer.pieces call second = .ok others)
      (written : (composer.convert first call).outcome = .ok (pieces.flatMap Match.token))
      (writtenOther : (composer.convert second call).outcome = .ok (others.flatMap Match.token))
      (places : pieces.map Match.place = others.map Match.place)
      (events : (composer.convert first call).events.map Event.place =
        (composer.convert second call).events.map Event.place)

variable {hiragana katakana : Trie Text}

theorem blurs_of_lower (ignores : hiragana.caseInsensitive = true) {first second : Text}
    (texts : Text.SameLetters first second) : List.Forall₂ hiragana.Blurs first second := by
  refine texts.imp fun one other same => Trie.blurs_of_normalize ?_
  simp [Trie.normalize, ignores, same]

theorem place_tokenize (alike : hiragana.Alike katakana)
    (ignores : hiragana.caseInsensitive = true) {first second : Text}
    (texts : Text.SameLetters first second) :
    (tokenize hiragana katakana first).map Match.place =
      (tokenize hiragana katakana second).map Match.place := by
  have places (text : Text) : (tokenize hiragana katakana text).map Match.place =
      (hiragana.tokenize text).map Match.place := by
    rw [Match.map_place, map_span_tokenize alike, ← Match.map_place]
  rw [places, places]
  exact Match.map_place_eq (Trie.parallel_tokenize (blurs_of_lower ignores texts))

theorem pieces_of_refused {composer : Composer} {call : Option (Mapping Text)} {failure : Failure}
    (refused : composer.active call = .error failure) {text : Text} (filled : text ≠ []) :
    composer.pieces call text = .error failure := by
  obtain ⟨character, rest, rfl⟩ := List.exists_cons_of_ne_nil filled
  unfold active at refused
  unfold pieces
  cases first : composer.hiragana.overlay Resolver.ruled call <;>
    cases second : composer.katakana.overlay Resolver.ruled call <;>
    simp_all [bind, Except.bind, pure, Except.pure]

theorem convert_of_pieces {composer : Composer} {call : Option (Mapping Text)} {text : Text}
    (filled : text ≠ []) : composer.convert text call =
      match composer.pieces call text with
      | .error failure => ⟨.error failure, []⟩
      | .ok pieces => .ofPieces name "kana.convert".toList pieces Match.token := by
  cases given : composer.pieces call text <;> simp [convert, filled, given]

theorem Paired.cutsAlike {composer : Composer} (paired : composer.Paired)
    (call : Option (Mapping Text)) {first second : Text}
    (texts : Text.SameLetters first second) : composer.CutsAlike call first second := by
  cases texts with
  | nil => exact .cut [] [] rfl rfl rfl rfl rfl rfl
  | @cons one other rest later here texts =>
      have both : Text.SameLetters (one :: rest) (other :: later) := .cons here texts
      rcases ComposerRules.active_cases paired.alike call with
        ⟨empty, refused⟩ | ⟨-, hiragana, katakana, active, alike⟩
      · refine .refused empty ?_ ?_ <;>
          rw [convert_of_pieces (List.cons_ne_nil _ _),
            pieces_of_refused refused (List.cons_ne_nil _ _)]
      · have ignores : hiragana.caseInsensitive = true :=
          (caseInsensitive_of_active active).trans paired.ignores
        have places := place_tokenize alike ignores both
        have made (text : Text) := pieces_of_active active text
        refine .cut _ _ (made _) (made _) ?_ ?_ places ?_ <;>
          simp only [convert_of_pieces (List.cons_ne_nil _ _), made]
        · rfl
        · rfl
        · exact Report.place_events_ofPieces places _ _ _

end Composer

namespace Registry

/--
A new converter to kana, in either spelling and with any rules of a caller's own, treats two texts
alike that have the same small letters, whatever rules a call brings. A converter cannot be made
only if one of its rules has an empty path.
-/
theorem newComposer_cutsAlike (history : List Request) (obsolete : Choice)
    (own : Option (Mapping Text)) :
    ([] ∈ Mapping.pathsOf own ∧
        (Steps.run (newComposer obsolete own) (after history)).1 = .error .emptyPath) ∨
      ∃ composer, (Steps.run (newComposer obsolete own) (after history)).1 = .ok composer ∧
        ∀ call first second, Text.SameLetters first second →
          composer.CutsAlike call first second := by
  rw [run_newComposer]
  rcases ComposerRules.makeComposer_standard obsolete own with
    refused | ⟨-, composer, made, paired⟩
  · exact .inl refused
  · exact .inr ⟨composer, made, fun call _ _ texts => paired.cutsAlike call texts⟩

theorem newComposer_cutsAlike_kelvin :
    Text.SameLetters "\u212AADog".toList "kadoG".toList ∧
      ∃ composer, (Steps.run (newComposer (some true)
          (some (.table (.ofPairs [(.text "Dog".toList, "いぬ".toList)])))) (after [])).1 =
          .ok composer ∧
        composer.CutsAlike (some (.sequence [(.text "K".toList, "き".toList)]))
          "\u212AADog".toList "kadoG".toList := by
  have letters : Text.SameLetters "\u212AADog".toList "kadoG".toList :=
    .cons (by decide +kernel) <| .cons (by decide +kernel) <| .cons (by decide +kernel) <|
      .cons (by decide +kernel) <| .cons (by decide +kernel) .nil
  rcases newComposer_cutsAlike [] (some true)
      (some (.table (.ofPairs [(.text "Dog".toList, "いぬ".toList)]))) with
    ⟨empty, -⟩ | ⟨composer, made, alike⟩
  · exact absurd empty (by decide)
  · exact ⟨letters, composer, made, alike _ _ _ letters⟩

end Registry
end Honji
