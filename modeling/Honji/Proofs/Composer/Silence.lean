import Honji.Proofs.Composer.Filled
import Honji.Proofs.Composer.ScriptFacades
import Honji.Proofs.RoundTrip.Typable

/-!
What composing swallows. The published rules repeat letters on the way to a rule. Letters that only
a caller's rules bring, and only on the way to a rule, are not repeated: a piece that ends there is
swallowed, and so is the kana that it would have been without those rules.
-/

namespace Honji
namespace Composer

structure Echoes (ruleSet : ComposerRuleSet) (hiragana katakana : Trie Text) : Prop where
  alike : ruleSet.hiragana.Alike ruleSet.katakana
  hiragana : ruleSet.hiragana.Echoing hiragana
  katakana : ruleSet.katakana.Echoing katakana

namespace Echoes
variable {ruleSet : ComposerRuleSet} {hiragana katakana : Trie Text}

theorem silent_headMatch (echoes : Echoes ruleSet hiragana katakana) (start : Nat)
    (character : Char) (rest : Text) :
    (headMatch hiragana katakana start character rest).token = [] ↔
      (headMatch hiragana katakana start character rest).kind = .placeholder ∧
        ruleSet.hiragana.find?
          (Path.ofText (headMatch hiragana katakana start character rest).source) = none := by
  have unknown (path : Path) :
      ruleSet.katakana.find? path = none ↔ ruleSet.hiragana.find? path = none := by
    have same := echoes.alike.lookups path
    rw [← Option.map_eq_none_iff, ← same, Option.map_eq_none_iff]
  unfold headMatch
  dsimp only
  split
  · rw [echoes.katakana.silent_headMatch, unknown]
  · exact echoes.hiragana.silent_headMatch start character rest

theorem silent_tokenize (echoes : Echoes ruleSet hiragana katakana) (text : Text) :
    ∀ piece ∈ tokenize hiragana katakana text, piece.token = [] ↔
      piece.kind = .placeholder ∧ ruleSet.hiragana.find? (Path.ofText piece.source) = none := by
  intro piece member
  obtain ⟨before, character, rest, -, rfl⟩ :=
    Match.mem_scan (cuts_headMatch hiragana katakana) member
  exact echoes.silent_headMatch _ character rest

theorem overlay (echoes : Echoes ruleSet hiragana katakana) {mapping : Option (Mapping Text)}
    (spoken : Mapping.Spoken mapping) : ∃ one other,
      hiragana.overlay Resolver.ruled mapping = .ok one ∧
        katakana.overlay Resolver.ruled mapping = .ok other ∧ Echoes ruleSet one other := by
  obtain ⟨one, given, echoing⟩ := echoes.hiragana.overlay spoken
  obtain ⟨other, givenToo, echoingToo⟩ := echoes.katakana.overlay spoken
  exact ⟨one, other, given, givenToo, echoes.alike, echoing, echoingToo⟩

theorem exists_pieces {composer : Composer}
    (echoes : Echoes ruleSet composer.hiragana composer.katakana) {call : Option (Mapping Text)}
    (spoken : Mapping.Spoken call) (text : Text) : ∃ pieces,
      composer.pieces call text = .ok pieces ∧ ∀ piece ∈ pieces, piece.token = [] ↔
        piece.kind = .placeholder ∧ ruleSet.hiragana.find? (Path.ofText piece.source) = none := by
  obtain ⟨one, other, given, givenToo, laid⟩ := echoes.overlay spoken
  have active : composer.active call = .ok (one, other) := by
    rw [Composer.active, given, givenToo]
    rfl
  exact ⟨_, pieces_of_active active text, laid.silent_tokenize text⟩

end Echoes

theorem exists_echoes {ruleSet : ComposerRuleSet}
    (alike : ruleSet.hiragana.Alike ruleSet.katakana) (filled : ruleSet.hiragana.Filled)
    (filledToo : ruleSet.katakana.Filled) {own : Option (Mapping Text)}
    (spoken : Mapping.Spoken own) : ∃ composer, create ruleSet own = .ok composer ∧
      composer.rules = ruleSet ∧ Echoes ruleSet composer.hiragana composer.katakana := by
  have plain : Echoes ruleSet ruleSet.hiragana ruleSet.katakana :=
    ⟨alike, filled.echoing, filledToo.echoing⟩
  obtain ⟨one, other, given, givenToo, laid⟩ := plain.overlay spoken
  refine ⟨⟨ruleSet, one.freeze, other.freeze, own.isSome⟩, ?_, rfl,
    laid.alike, laid.hiragana.freeze, laid.katakana.freeze⟩
  rw [create, given, givenToo]
  rfl

end Composer

theorem Trie.exists_overlay_headMatch {base : Trie Text} {first : Char} {more : Text}
    (unknown : base.find? (Path.ofText (first :: more)) = none) (next : Char) (rest token : Text) :
    ∃ laid, base.overlay Resolver.ruled
        (some (.sequence [(.text (first :: more ++ next :: rest), token)])) = .ok laid ∧
      laid.headMatch 0 first more = ⟨[], 0, first :: more, .placeholder⟩ := by
  let rules : List (Path × Text) := [(Path.ofText (first :: more ++ next :: rest), token)]
  have listed : Mapping.rules? (.sequence [(.text (first :: more ++ next :: rest), token)]) =
      some rules := rfl
  obtain ⟨laid, given, overlays⟩ := base.overlays_overlay listed (by simp [rules])
  refine ⟨laid, given, ?_⟩
  have waits := overlays.waiting (Path.ofText (first :: more)) (by simp)
    (by simp [rules, ruleFor?, lastToken?, normalized, Path.ofText]) unknown
    (by simp [rules, leadsTo, normalized, Path.ofText])
  obtain ⟨node, reached, entry⟩ := Option.map_eq_some_iff.1 waits
  have matched : laid.headMatch 0 first (more ++ []) =
      ⟨node.entry.token, 0, first :: more, kindAt node⟩ := headMatch_eq reached (halts_nil node)
  rw [kindAt, entry, List.append_nil] at matched
  exact matched

namespace Registry

theorem run_newComposer_of_compile {obsolete : Choice} {ruleSet : ComposerRuleSet}
    (compiled : ComposerRules.standard.compile obsolete = .ok ruleSet) (history : List Request)
    (own : Option (Mapping Text)) : (Steps.run (newComposer obsolete own) (after history)).1 =
      Composer.create ruleSet own := by
  rw [run_newComposer, ComposerRules.makeComposer, compiled]
  rfl

/--
Every composer with rules that are spoken swallows a piece, in a call with such rules, exactly if no
rule ends with the letters of the piece and the published rules lead nowhere with them.
-/
theorem newComposer_silent (history : List Request) (obsolete : Choice)
    {own : Option (Mapping Text)} (ownSpoken : Mapping.Spoken own) : ∃ composer,
      (Steps.run (newComposer obsolete own) (after history)).1 = .ok composer ∧
      ComposerRules.standard.compile obsolete = .ok composer.rules ∧
      ∀ call, Mapping.Spoken call → ∀ text, ∃ pieces, composer.pieces call text = .ok pieces ∧
        ∀ piece ∈ pieces, piece.token = [] ↔ piece.kind = .placeholder ∧
          composer.rules.hiragana.find? (Path.ofText piece.source) = none := by
  obtain ⟨ruleSet, compiled, alike, -⟩ := ComposerRules.exists_standard obsolete
  obtain ⟨filled, filledToo⟩ := ComposerRules.voiced_standard.filled_compile compiled
  obtain ⟨composer, created, rfl, echoes⟩ :=
    Composer.exists_echoes alike filled filledToo ownSpoken
  exact ⟨composer, (run_newComposer_of_compile compiled history own).trans created, compiled,
    fun call spoken text => echoes.exists_pieces spoken text⟩

def neko : Mapping Text :=
  .sequence [(.text "neko".toList, "猫".toList)]

theorem spoken_neko : Mapping.Spoken (some neko) := by
  rintro given ⟨⟩
  exact ⟨_, rfl, by decide⟩

theorem newComposer_silent_neko :
    Mapping.Spoken (some neko) ∧ ∃ composer,
      (Steps.run (newComposer true (some neko)) (after [])).1 = .ok composer ∧
      ComposerRules.standard.compile true = .ok composer.rules ∧
      ∀ call, Mapping.Spoken call → ∀ text, ∃ pieces, composer.pieces call text = .ok pieces ∧
        ∀ piece ∈ pieces, piece.token = [] ↔ piece.kind = .placeholder ∧
          composer.rules.hiragana.find? (Path.ofText piece.source) = none :=
  ⟨spoken_neko, newComposer_silent [] true spoken_neko⟩

/--
Letters with which the published rules lead nowhere are swallowed as soon as a rule of a caller's
own goes on behind them, though without that rule each of them is written.
-/
theorem newComposer_swallows (history : List Request) (obsolete : Choice) {first : Char}
    {more : Text} (unknown : ∀ ruleSet, ComposerRules.standard.compile obsolete = .ok ruleSet →
      ruleSet.hiragana.find? (Path.ofText (first :: more)) = none)
    (next : Char) (rest token : Text) : ∃ composer,
      (Steps.run (newComposer obsolete
        (some (.sequence [(.text (first :: more ++ next :: rest), token)])))
          (after history)).1 = .ok composer ∧
      composer.pieces none (first :: more) = .ok [⟨[], 0, first :: more, .placeholder⟩] := by
  obtain ⟨ruleSet, compiled, alike, -⟩ := ComposerRules.exists_standard obsolete
  have absent := unknown ruleSet compiled
  have absentToo : ruleSet.katakana.find? (Path.ofText (first :: more)) = none := by
    have same := alike.lookups (Path.ofText (first :: more))
    rwa [absent, Option.map_none, eq_comm, Option.map_eq_none_iff] at same
  obtain ⟨one, given, matched⟩ := Trie.exists_overlay_headMatch absent next rest token
  obtain ⟨other, givenToo, matchedToo⟩ := Trie.exists_overlay_headMatch absentToo next rest token
  let composer : Composer := ⟨ruleSet, one.freeze, other.freeze, true⟩
  have active : composer.active none = .ok (one.freeze, other.freeze) := rfl
  have piece : Composer.headMatch one.freeze other.freeze 0 first more =
      ⟨[], 0, first :: more, .placeholder⟩ := by
    unfold Composer.headMatch
    simp only [Trie.headMatch_freeze, matched, matchedToo, ite_self]
  refine ⟨composer, ?_, ?_⟩
  · rw [run_newComposer_of_compile compiled, Composer.create, given, givenToo]
    rfl
  · rw [Composer.pieces_of_active active, Composer.tokenize, Match.scan, piece, Match.scan_skip]
    simp [Match.scan]

theorem unknown_nek {ruleSet : ComposerRuleSet}
    (compiled : ComposerRules.standard.compile false = .ok ruleSet) :
    ruleSet.hiragana.find? (Path.ofText "nek".toList) = none := by
  obtain ⟨hiragana, katakana, first, second, supports⟩ := exists_supports
  obtain rfl : ⟨hiragana.freeze, katakana.freeze, false⟩ = ruleSet := by
    rw [ComposerRules.compile, first, second] at compiled
    exact Except.ok.inj compiled
  -- the rule for ね is typed as "ne", and nothing leads on from there
  have typed := (supports.typable .hepburn).words .hiragana (Script.mem_all _)
    (["ね".toList], "ne".toList) (by decide +kernel) (by decide +kernel)
  obtain ⟨node, reached, -, leaf⟩ := Trie.endsOn_iff.1 typed.ends
  have halts : hiragana.step? node "k".toList = none := Trie.halts_of_keys leaf ['k'] 'k' rfl
  show hiragana.reach? hiragana.root ("ne".toList ++ "k".toList) = none
  rw [Trie.reach?_append, show hiragana.reach? hiragana.root "ne".toList = some node from reached]
  simpa [Trie.reach?_cons] using halts

/-- With a rule for "neko" the letters "nek" are swallowed, and so is the kana of "ne" in them. -/
theorem swallowed_nek :
    Mapping.Spoken (some neko) ∧ ∃ composer,
      (Steps.run (newComposer false (some neko)) (after [])).1 = .ok composer ∧
        composer.pieces none "nek".toList = .ok [⟨[], 0, "nek".toList, .placeholder⟩] :=
  ⟨spoken_neko, newComposer_swallows [] false (fun _ => unknown_nek) 'o' [] "猫".toList⟩

end Registry
end Honji
