import Honji.Proofs.Composer.LetterCase
import Honji.Proofs.Composer.Typing
import Honji.Proofs.OwnRules
import Honji.Proofs.Trie.Seams

/-!
Conversions put together from conversions of parts. Wherever a text is cut at a seam, it is cut and
converted part by part, and the events of both parts are told one after the other. There is a seam
before every character that only begins rules.
-/

namespace Honji

structure Report.Joins (offset : Nat) (whole first second : Report) : Prop where
  outcome : ∃ one other, first.outcome = .ok one ∧ second.outcome = .ok other ∧
    whole.outcome = .ok (one ++ other)
  events : whole.events = first.events ++ second.events.map (Event.shift offset)

structure Composes (cut : Text → List (Match Text)) (convert : Text → Report)
    (opens : Char → Prop) : Prop where
  splits : ∀ first second, Match.Seam 0 (cut (first ++ second)) first.length →
    Match.Splits cut first second
  joins : ∀ first second, Match.Seam 0 (cut (first ++ second)) first.length →
    Report.Joins first.length (convert (first ++ second)) (convert first) (convert second)
  seams : ∀ first second, (∀ character ∈ second.head?, opens character) →
    Match.Seam 0 (cut (first ++ second)) first.length

theorem Match.Splits.joins {cut : Text → List (Match Text)} {convert : Text → Report}
    {converter : Text} {written : Match Text → Text} {first second : Text}
    (splits : Splits cut first second)
    (covers : ∀ text, (convert text).Covers converter (cut text) written)
    (unplaced : ∀ offset piece, written (shift offset piece) = written piece) :
    Report.Joins first.length (convert (first ++ second)) (convert first) (convert second) where
  outcome := ⟨_, _, (covers first).outcome, (covers second).outcome, by
    rw [(covers _).outcome, splits.written written unplaced]⟩
  events := by
    rw [(covers _).events, (covers _).events, (covers _).events, splits.events]

namespace Composer
variable {hiragana katakana : Trie Text}

theorem placed_headMatch (hiragana katakana : Trie Text) :
    Match.Placed (headMatch hiragana katakana) := by
  intro offset start character rest
  unfold headMatch
  dsimp only
  rw [hiragana.placed_headMatch, katakana.placed_headMatch, Match.source_shift]
  split <;> rfl

section
variable (alike : hiragana.Alike katakana)
include alike

theorem source_headMatch (start : Nat) (character : Char) (rest : Text) :
    (headMatch hiragana katakana start character rest).source =
        (hiragana.headMatch start character rest).source ∧
      (katakana.headMatch start character rest).source =
        (hiragana.headMatch start character rest).source :=
  ⟨congrArg (·.2.1) (span_headMatch alike start character rest),
    congrArg (·.2.1) (alike.span_headMatch start character rest).symm⟩

theorem local_headMatch : Match.Local (headMatch hiragana katakana) := by
  intro start character rest more short
  obtain ⟨source, other⟩ := source_headMatch alike start character (rest ++ more)
  rw [source] at short
  have first := hiragana.local_headMatch start character rest more short
  have second := katakana.local_headMatch start character rest more (other ▸ short)
  rw [headMatch, headMatch, first, second]

theorem barred_headMatch {text : Text}
    (opens : ∀ character ∈ text.head?, hiragana.Opens character ∨ katakana.Opens character) :
    Match.Barred (headMatch hiragana katakana) text := by
  cases text with
  | nil => exact (cuts_headMatch hiragana katakana).barred_nil
  | cons character text =>
      intro start front rest
      obtain ⟨source, other⟩ := source_headMatch alike start front (rest ++ character :: text)
      rw [source]
      rcases opens character rfl with first | second
      · exact Trie.barred_headMatch first text start front rest
      · rw [← other]
        exact Trie.barred_headMatch second text start front rest

end

theorem convert_of_refused {composer : Composer} {call : Option (Mapping Text)} {failure : Failure}
    (refused : composer.active call = .error failure) {text : Text} (filled : text ≠ []) :
    composer.convert text call = ⟨.error failure, []⟩ := by
  rw [convert_of_pieces filled, pieces_of_refused refused filled]

theorem covers_convert {composer : Composer} {call : Option (Mapping Text)}
    (active : composer.active call = .ok (hiragana, katakana)) (text : Text) :
    (composer.convert text call).Covers name (tokenize hiragana katakana text) Match.token := by
  cases text with
  | nil => exact ⟨rfl, rfl⟩
  | cons character rest =>
      rw [convert_of_pieces (List.cons_ne_nil _ _), pieces_of_active active]
      exact Report.covers_ofPieces _ _ _ _

inductive Compositional (composer : Composer) (call : Option (Mapping Text)) : Prop
  | refused (empty : [] ∈ Mapping.pathsOf call)
      (fails : ∀ text ≠ [], composer.convert text call = ⟨.error .emptyPath, []⟩)
  | taken (hiragana katakana : Trie Text)
      (active : composer.active call = .ok (hiragana, katakana))
      (pieces : ∀ text, composer.pieces call text = .ok (tokenize hiragana katakana text))
      (composes : Composes (tokenize hiragana katakana) (composer.convert · call)
        fun character => hiragana.Opens character ∨ katakana.Opens character)

theorem Paired.compositional {composer : Composer} (paired : composer.Paired)
    (call : Option (Mapping Text)) : composer.Compositional call := by
  rcases ComposerRules.active_cases paired.alike call with
    ⟨empty, refused⟩ | ⟨-, hiragana, katakana, active, alike⟩
  · exact .refused empty fun text filled => convert_of_refused refused filled
  · have cuts := cuts_headMatch hiragana katakana
    have near := local_headMatch alike
    have splits (first second : Text)
        (seam : Match.Seam 0 (tokenize hiragana katakana (first ++ second)) first.length) :
        Match.Splits (tokenize hiragana katakana) first second :=
      Match.splits_scan cuts near (placed_headMatch hiragana katakana) seam
    refine .taken hiragana katakana active (pieces_of_active active) ⟨splits, ?_, ?_⟩
    · exact fun first second seam =>
        (splits first second seam).joins (covers_convert active) fun _ _ => rfl
    · intro first second opens
      have seam := (barred_headMatch alike opens).seam cuts near 0 first
      rwa [Nat.zero_add] at seam

end Composer

namespace Trie
variable {α : Type} [Token α]

theorem seam_of_opens (trie : Trie α) (first : Text) {second : Text}
    (opens : ∀ character ∈ second.head?, trie.Opens character) :
    Match.Seam 0 (trie.tokenize (first ++ second)) first.length := by
  have seam := (barred_of_head? opens).seam trie.cuts_headMatch trie.local_headMatch 0 first
  rwa [Nat.zero_add] at seam

/-- A trie cuts texts part by part where they have a seam, as before some characters. -/
structure Compositional (trie : Trie α) : Prop where
  splits : ∀ first second, Match.Seam 0 (trie.tokenize (first ++ second)) first.length →
    Match.Splits trie.tokenize first second
  seams : ∀ first second, (∀ character ∈ second.head?, trie.Opens character) →
    Match.Seam 0 (trie.tokenize (first ++ second)) first.length

theorem compositional (trie : Trie α) : trie.Compositional :=
  ⟨fun _ _ seam => splits_tokenize seam, fun first _ opens => trie.seam_of_opens first opens⟩

end Trie

namespace Romanizer

theorem convert_of_refused {romanizer : Romanizer} {call : Option (Mapping Text)}
    {failure : Failure}
    (refused : romanizer.active.overlay Resolver.ruled call = .error failure) {text : Text}
    (filled : text ≠ []) (choice : Choice) : romanizer.convert text choice call =
      ⟨.error failure, [.timed (romanizer.name ++ ".convert".toList)]⟩ := by
  simp [convert, filled, pieces, Trie.pieces, refused, bind, Except.bind]

theorem covers_convert {romanizer : Romanizer} {call : Option (Mapping Text)} {active : Trie Text}
    (given : romanizer.active.overlay Resolver.ruled call = .ok active) (text : Text)
    (choice : Choice) : (romanizer.convert text choice call).Covers romanizer.name
      (active.tokenize text) (if romanizer.capitalizes choice then capitalized else Match.token) := by
  cases text with
  | nil => exact ⟨rfl, rfl⟩
  | cons character rest =>
      have cut : romanizer.pieces call (character :: rest) =
          .ok (active.tokenize (character :: rest)) := by
        simp [pieces, Trie.pieces, given, bind, Except.bind, pure, Except.pure]
      simp only [convert, cut]
      exact Report.covers_ofPieces _ _ _ _

inductive Compositional (romanizer : Romanizer) (call : Option (Mapping Text)) : Prop
  | refused (empty : [] ∈ Mapping.pathsOf call)
      (fails : ∀ text ≠ [], ∀ choice,
        (romanizer.convert text choice call).outcome = .error .emptyPath)
  | taken (active : Trie Text) (given : romanizer.active.overlay Resolver.ruled call = .ok active)
      (pieces : ∀ text, romanizer.pieces call text = .ok (active.tokenize text))
      (composes : ∀ choice, Composes active.tokenize (romanizer.convert · choice call) active.Opens)

theorem compositional (romanizer : Romanizer) (call : Option (Mapping Text)) :
    romanizer.Compositional call := by
  rcases romanizer.active.overlay_cases Resolver.ruled call with
    ⟨empty, refused⟩ | ⟨-, active, given⟩
  · exact .refused empty fun text filled choice => by rw [convert_of_refused refused filled]
  · refine .taken active given (fun text => ?_) fun choice => ⟨?_, ?_, ?_⟩
    · cases text with
      | nil => rfl
      | cons character rest =>
          simp [pieces, Trie.pieces, given, bind, Except.bind, pure, Except.pure]
    · exact fun first second seam => Trie.splits_tokenize seam
    · refine fun first second seam => (Trie.splits_tokenize seam).joins
        (fun text => covers_convert given text choice) fun offset piece => ?_
      split <;> rfl
    · exact fun first second opens => active.seam_of_opens first opens

end Romanizer

namespace Registry

/--
Every trie cuts texts part by part at their seams, and so do converters under all rules that they
take. A converter to kana can be made unless one of its rules has an empty path.
-/
theorem conversions_compose {α : Type} [Token α] (trie : Trie α) (romanizer : Romanizer)
    (history : List Request) (obsolete : Choice) (own : Option (Mapping Text)) :
    trie.Compositional ∧ (∀ call, romanizer.Compositional call) ∧
      (([] ∈ Mapping.pathsOf own ∧
          (Steps.run (newComposer obsolete own) (after history)).1 = .error .emptyPath) ∨
        ∃ composer, (Steps.run (newComposer obsolete own) (after history)).1 = .ok composer ∧
          ∀ call, composer.Compositional call) := by
  refine ⟨trie.compositional, romanizer.compositional, ?_⟩
  rw [run_newComposer]
  rcases ComposerRules.makeComposer_standard obsolete own with
    refused | ⟨-, composer, made, paired⟩
  · exact .inl refused
  · exact .inr ⟨composer, made, paired.compositional⟩

end Registry
end Honji
