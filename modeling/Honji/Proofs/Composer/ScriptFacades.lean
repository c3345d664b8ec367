import Honji.Proofs.Composer.Converter
import Honji.Proofs.Composer.RaisedStages
import Honji.Proofs.Composer.Standard
import Honji.Proofs.Trie.SideBySide

/-!
The facade for katakana and the one for hiragana. A text is cut at the same places whether it is
typed in capitals or in hiragana and small letters, and what is composed of each piece in the first
case is the raised form of what is composed of it in the second.
-/

namespace Honji

theorem Trie.token_headMatch {α : Type} [Token α] {trie : Trie α} (start : Nat) {character : Char}
    (rest : Text) (known : trie.step? trie.root [character] ≠ none) :
    ∃ entry, trie.root.entryAt? ((Path.ofText (trie.headMatch start character rest).source).map
        trie.normalize) = some entry ∧
      (trie.headMatch start character rest).token = entry.token ∧
      (trie.headMatch start character rest).kind ≠ .fallback := by
  obtain ⟨taken, later, node, rfl, reached, halts⟩ := exists_reach rest known
  rw [headMatch_eq reached halts]
  refine ⟨node.entry, ?_, rfl, ?_⟩
  · rw [← find?_map_entry, find?_ofText, reached, Option.map_some]
  · rw [kindAt]
    split <;> simp

namespace Kana

theorem toKatakana_raise (text : Text) : toKatakana (raise text) = raise text :=
  toKatakana_toKatakana _

theorem raise_of_beside {one other : Char} (beside : Text.Beside one other) :
    toKatakana [one] = raise [other] := by
  cases beside with
  | ascii ascii => simp [raise, Text.upper, (Text.twoForms_of_ascii ascii).raised]
  | eastern eastern =>
      have still := Text.capitalForm_of_isEastern (Text.isEastern_hiraganaOf eastern)
      simp [raise, Text.upper, still, toKatakana, katakanaOf_hiraganaOf]

end Kana

namespace Text

theorem noCapital_of_beside {first second : Text} (texts : List.Forall₂ Beside first second) :
    ∀ character ∈ second, inSpans CaseTable.capitals character = false := by
  induction texts with
  | nil => simp
  | cons here _ ih =>
      refine List.forall_mem_cons.2 ⟨?_, ih⟩
      cases here with
      | ascii ascii => exact (twoForms_of_ascii ascii).notCapital
      | eastern eastern => exact inSpans_capitals_of_isEastern (isEastern_hiraganaOf eastern)

theorem exists_beside {first second : Text} (texts : List.Forall₂ Beside first second) :
    ∀ character ∈ first, ∃ other, Beside character other := by
  induction texts with
  | nil => simp
  | cons here _ ih => exact List.forall_mem_cons.2 ⟨⟨_, here⟩, ih⟩

theorem noCapital_of_not_isUpper {source : Text} (notUpper : ¬source.isUpper = true)
    (letters : ∀ character ∈ source, ∃ letter : Char, letter.toNat < 0x80 ∧
      character = capitalOf letter) :
    ∀ character ∈ source, inSpans CaseTable.capitals character = false := by
  intro character member
  rw [← Bool.not_eq_true]
  intro capital
  apply notUpper
  simp only [isUpper, Bool.and_eq_true, List.any_eq_true, List.all_eq_true]
  refine ⟨⟨character, member, capital⟩, fun character member => ?_⟩
  obtain ⟨letter, code, rfl⟩ := letters character member
  have forms := twoForms_of_ascii code
  simp [forms.notSmall, forms.notTitle]

theorem lower_of_isEastern {character : Char} (eastern : isEastern character = true) :
    lower [character] = [character] := by
  have sigma : character ≠ 'Σ' := by
    rintro rfl
    exact absurd eastern (by decide)
  rw [lower_singleton, if_neg sigma, smallForm_of_isEastern eastern]

end Text

namespace Trie.Raises
variable {hiragana katakana : Trie Text} (raises : hiragana.Raises katakana)
include raises

theorem step?_of_isEastern {path : Path} {node : Node Text}
    (inside : hiragana.root.find? path = some node) {character : Char}
    (eastern : Text.isEastern character = true) : hiragana.step? node [character] = none := by
  cases led : hiragana.step? node [character] with
  | none => rfl
  | some child =>
      have leads := find?_step inside led
      rw [normalize, raises.ignores, if_pos rfl, Text.lower_of_isEastern eastern] at leads
      have there : hiragana.root.find? (path ++ [[character]]) ≠ none := by simp [leads]
      have western := raises.tokens.western there [character] (by simp)
      simp [Text.isWestern, eastern] at western

theorem blurs_of_beside {one other : Char} (beside : Text.Beside one other) :
    hiragana.Blurs one other := by
  cases beside with
  | ascii ascii =>
      have forms := Text.twoForms_of_ascii ascii
      refine blurs_of_normalize ?_
      simp [normalize, raises.ignores, forms.lowered, forms.loweredTwice]
  | eastern eastern =>
      intro path node inside
      rw [raises.step?_of_isEastern inside eastern,
        raises.step?_of_isEastern inside (Text.isEastern_hiraganaOf eastern)]

theorem exists_ascii {source : Text} {entry : Entry Text}
    (there : hiragana.root.entryAt? ((Path.ofText source).map hiragana.normalize) = some entry)
    (typed : ∀ character ∈ source, ∃ other, Text.Beside character other) :
    ∀ character ∈ source, ∃ letter : Char, letter.toNat < 0x80 ∧
      character = Text.capitalOf letter ∧
      hiragana.normalize [character] = [Text.smallOf letter] := by
  have leads : hiragana.root.find? ((Path.ofText source).map hiragana.normalize) ≠ none := by
    rw [Ne, ← Node.entryAt?_eq_none_iff, there]
    simp
  intro character member
  obtain ⟨other, beside⟩ := typed character member
  cases beside with
  | ascii ascii =>
      refine ⟨_, ascii, rfl, ?_⟩
      simp [normalize, raises.ignores, (Text.twoForms_of_ascii ascii).lowered]
  | eastern eastern =>
      have western := raises.tokens.western leads (hiragana.normalize [character]) (by
        simpa [Path.ofText] using ⟨character, member, rfl⟩)
      rw [normalize, raises.ignores, if_pos rfl, Text.lower_of_isEastern eastern] at western
      simp [Text.isWestern, eastern] at western

theorem toKatakana_token {source : Text} {entry other : Entry Text}
    (there : hiragana.root.entryAt? ((Path.ofText source).map hiragana.normalize) = some entry)
    (raised : RaisedAt ((Path.ofText source).map hiragana.normalize) entry other)
    (typed : ∀ character ∈ source, ∃ other, Text.Beside character other) :
    Kana.toKatakana (if source.isUpper then other.token else entry.token) =
      Kana.raise entry.token := by
  have letters := raises.exists_ascii there typed
  have symbols {property : Symbol → Prop}
      (each : ∀ character ∈ source, property (hiragana.normalize [character])) :
      ∀ symbol ∈ (Path.ofText source).map hiragana.normalize, property symbol := by
    simpa [Path.ofText] using each
  have ascii (character : Char) (member : character ∈ source) :
      Text.isAscii (hiragana.normalize [character]) = true := by
    obtain ⟨letter, code, -, small⟩ := letters character member
    simpa [small, Text.isAscii] using (Text.twoForms_of_ascii code).smallCode
  by_cases upper : source.isUpper = true
  · rw [if_pos upper, raised.token (symbols ascii), Kana.toKatakana_raise]
  · -- without a capital in the source every symbol of the path is its own capital form
    have noCapital := Text.noCapital_of_not_isUpper upper fun character member => by
      obtain ⟨letter, code, same, -⟩ := letters character member
      exact ⟨letter, code, same⟩
    have caseless (character : Char) (member : character ∈ source) :
        Text.upper (hiragana.normalize [character]) = hiragana.normalize [character] := by
      obtain ⟨letter, code, rfl, small⟩ := letters character member
      have forms := Text.twoForms_of_ascii code
      rw [small, forms.same (noCapital _ member)]
      simpa [Text.upper] using forms.raisedTwice
    rw [if_neg upper, Kana.raise, raised.settled (symbols fun character member =>
      ⟨ascii character member, caseless character member⟩)]

end Trie.Raises

namespace Composer
variable {hiragana katakana : Trie Text}

theorem headMatch_of_beside {start : Nat} {one other : Char} {rest later : Text}
    (here : Text.Beside one other) (texts : List.Forall₂ Text.Beside rest later) :
    headMatch hiragana katakana start other later = hiragana.headMatch start other later := by
  have small := Text.noCapital_of_beside (.cons here texts)
  obtain ⟨taken, source, before⟩ := hiragana.source_headMatch start other later
  have lower : (hiragana.headMatch start other later).source.isUpper = false := by
    rw [source, Text.isUpper, Bool.and_eq_false_iff]
    refine .inl (List.any_eq_false.2 fun character member => ?_)
    have inside : character ∈ other :: later := by
      rcases List.mem_cons.1 member with rfl | member
      · simp
      · simp [before.subset member]
    simp [small character inside]
  rw [headMatch, if_neg (by simp [lower])]

theorem token_headMatch (hiragana katakana : Trie Text) (start : Nat) (character : Char)
    (rest : Text) : (headMatch hiragana katakana start character rest).token =
      if (hiragana.headMatch start character rest).source.isUpper then
        (katakana.headMatch start character rest).token
      else (hiragana.headMatch start character rest).token := by
  rw [headMatch]
  split <;> rfl

theorem exists_beside_source (trie : Trie Text) (start : Nat) {one other : Char}
    {rest later : Text} (here : Text.Beside one other)
    (texts : List.Forall₂ Text.Beside rest later) :
    ∀ character ∈ (trie.headMatch start one rest).source,
      ∃ other, Text.Beside character other := by
  obtain ⟨taken, source, before⟩ := trie.source_headMatch start one rest
  intro character member
  rw [source] at member
  exact Text.exists_beside (.cons here texts) character
    (List.cons_subset_cons _ before.subset member)

structure RaisedPiece (piece other : Match Text) : Prop where
  length : piece.source.length = other.source.length
  token : Kana.toKatakana piece.token = Kana.raise other.token

theorem toKatakana_flatMap {pieces others : List (Match Text)}
    (raised : List.Forall₂ RaisedPiece pieces others) :
    Kana.toKatakana (pieces.flatMap Match.token) = Kana.raise (others.flatMap Match.token) := by
  induction raised with
  | nil => rfl
  | cons here _ ih =>
      rw [List.flatMap_cons, List.flatMap_cons, Kana.toKatakana_append, Kana.raise_append,
        here.token, ih]

theorem raised_headMatch (raises : hiragana.Raises katakana) (start : Nat) {one other : Char}
    {rest later : Text} (here : Text.Beside one other)
    (texts : List.Forall₂ Text.Beside rest later) :
    RaisedPiece (headMatch hiragana katakana start one rest)
      (headMatch hiragana katakana start other later) := by
  have parallel := Trie.parallel_headMatch start (raises.blurs_of_beside here)
    (texts.imp fun _ _ => raises.blurs_of_beside)
  have source : (hiragana.headMatch start one rest).source =
      (katakana.headMatch start one rest).source :=
    congrArg (·.2.1) (raises.alike.span_headMatch start one rest)
  have known := raises.alike.step? raises.alike.outline [one]
  rw [headMatch_of_beside here texts]
  cases led : hiragana.step? hiragana.root [one] with
  | none =>
      have ledToo : katakana.step? katakana.root [one] = none := by
        simpa [led] using known.symm
      have other : hiragana.step? hiragana.root [other] = none := by
        rw [← raises.blurs_of_beside here [] hiragana.root rfl, led]
      rw [headMatch, Trie.headMatch_none led, Trie.headMatch_none ledToo,
        Trie.headMatch_none other, ite_self]
      exact ⟨rfl, Kana.raise_of_beside here⟩
  | some child =>
      have ledToo : katakana.step? katakana.root [one] ≠ none := by
        intro missing
        simp [led, missing] at known
      have leads : hiragana.step? hiragana.root [one] ≠ none := by simp [led]
      obtain ⟨entry, there, token, ruled⟩ := Trie.token_headMatch start rest leads
      obtain ⟨other, also, otherToken, -⟩ := Trie.token_headMatch start rest ledToo
      rw [← source, ← raises.alike.normalize] at also
      have tokens := raises.toKatakana_token there (raises.tokens.of_some there also)
        (exists_beside_source hiragana start here texts)
      rw [← token, ← otherToken] at tokens
      have cut := congrArg (·.2.1) (span_headMatch raises.alike start one rest)
      refine ⟨(congrArg List.length cut).trans parallel.length, ?_⟩
      rw [token_headMatch, tokens, parallel.token ruled]

theorem toKatakana_compose (raises : hiragana.Raises katakana) {first second : Text}
    (texts : List.Forall₂ Text.Beside first second) :
    Kana.toKatakana (compose hiragana katakana first) =
      Kana.raise (compose hiragana katakana second) := by
  refine toKatakana_flatMap ?_
  refine Match.forall₂_scan ?_ (fun _ _ raised => raised.length) texts 0 0
  intro start one other rest later here texts
  exact raised_headMatch raises start here texts

theorem exists_plain_raises (obsolete : Bool) : ∃ hiragana katakana : Trie Text,
    hiragana.Raises katakana ∧ ∃ composer, plain obsolete = .ok composer ∧
      ∀ text, (composer.convert text none).outcome = .ok (compose hiragana katakana text) := by
  obtain ⟨ruleSet, compiled, -, -⟩ := ComposerRules.exists_standard (some obsolete)
  have raises := ComposerRules.raisable_standard.raises_compile compiled
  refine ⟨ruleSet.hiragana.freeze, ruleSet.katakana.freeze, raises.freeze,
    ⟨ruleSet, ruleSet.hiragana.freeze, ruleSet.katakana.freeze, false⟩, ?_, outcome_convert _⟩
  rw [plain, compiled]
  rfl

end Composer

namespace Transliteration
open Registry

theorem run_toHiragana (history : List Request) (text : Text) (passRomaji obsolete : Bool) :
    (Steps.run (toHiragana text passRomaji obsolete) (after history)).1 =
      if text.isEmpty ∨ passRomaji then .ok (Kana.toHiragana text)
      else kanaOf (Text.lower (Kana.toHiragana text)) obsolete none := by
  have yields := (yields_toHiragana text passRomaji obsolete _ (consistent_after history)).1
  rwa [Except.map_id] at yields

theorem run_toKatakana (history : List Request) (text : Text) (passRomaji obsolete : Bool) :
    (Steps.run (toKatakana text passRomaji obsolete) (after history)).1 =
      if text.isEmpty ∨ passRomaji then .ok (Kana.toKatakana text)
      else do
        return Kana.toKatakana (← kanaOf (Text.upper text) obsolete none) := by
  have yields := (yields_toKatakana text passRomaji obsolete _ (consistent_after history)).1
  rwa [Except.map_id] at yields

def IsMixed (text : Text) : Prop :=
  ∀ character ∈ text, character.toNat < 0x80 ∨ CharacterClass.kana.holds character = true ∨
    CharacterClass.kanji.holds character = true

instance decidableIsMixed (text : Text) : Decidable (IsMixed text) :=
  List.decidableBAll _ text

/--
Both facades answer, after any requests and in either spelling; what the facade for katakana makes
of a text is what the facade for hiragana makes of it, set in capitals and shifted to katakana.
-/
theorem toKatakana_eq_toHiragana (history later : List Request) (obsolete : Bool) {text : Text}
    (mixed : IsMixed text) : ∃ written,
      (Steps.run (toHiragana text false obsolete) (after history)).1 = .ok written ∧
      (Steps.run (toKatakana text false obsolete) (after later)).1 =
        .ok (Kana.toKatakana (Text.upper written)) := by
  rw [run_toHiragana, run_toKatakana]
  by_cases empty : text = []
  · subst empty
    exact ⟨[], rfl, rfl⟩
  obtain ⟨hiragana, katakana, raises, composer, plain, converts⟩ :=
    Composer.exists_plain_raises obsolete
  have typed : ∀ character ∈ text, character.toNat < 0x80 ∨ Text.isEastern character = true := by
    intro character member
    refine (mixed character member).imp_right fun kind => ?_
    rw [Text.isEastern_iff]
    simp only [CharacterClass.holds, Kana.isHiraganaLetter, Kana.prolongedSound, Bool.or_eq_true,
      Bool.and_eq_true, decide_eq_true_eq, beq_iff_eq] at kind
    rcases kind with ((hiragana | rfl) | katakana) | kanji
    · omega
    · decide
    · omega
    · omega
  have facade (text : Text) : kanaOf text obsolete none =
      .ok (Composer.compose hiragana katakana text) := by
    rw [kanaOf, plain]
    exact converts text
  have same := Composer.toKatakana_compose raises (Text.forall₂_beside typed)
  have filled : ¬(text.isEmpty = true ∨ false = true) := by simpa using empty
  refine ⟨Composer.compose hiragana katakana (Text.lower (Kana.toHiragana text)), ?_, ?_⟩
  · rw [if_neg filled, facade]
  · rw [if_neg filled, facade]
    exact congrArg Except.ok same

theorem toKatakana_eq_toHiragana_mixed :
    IsMixed "kKan'っWi漢ッー・".toList ∧ ∃ written,
      (Steps.run (toHiragana "kKan'っWi漢ッー・".toList false true) (after [])).1 = .ok written ∧
      (Steps.run (toKatakana "kKan'っWi漢ッー・".toList false true)
          (after [.toKana "sa".toList false none])).1 =
        .ok (Kana.toKatakana (Text.upper written)) := by
  have mixed : IsMixed "kKan'っWi漢ッー・".toList := by decide
  exact ⟨mixed, toKatakana_eq_toHiragana [] [.toKana "sa".toList false none] true mixed⟩

end Transliteration
end Honji
