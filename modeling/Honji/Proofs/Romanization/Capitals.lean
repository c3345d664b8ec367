import Honji.Proofs.Accounting
import Honji.Proofs.Text.SettledForms

/-!
Katakana set in capitals. Whether a piece is set in capitals depends on its source alone, and what
is in capitals is left alone by capitals; so a text is written alike with the choice and without it
but for case, however it is cut and whatever the rules write.
-/

namespace Honji

namespace Match.Tiles
variable {α : Type} {position : Nat} {text : Text} {pieces : List (Match α)} {piece : Match α}
  (tiles : Tiles position text pieces) (cut : piece ∈ pieces)
include tiles cut

theorem mem_of_mem_source {character : Char} (member : character ∈ piece.source) :
    character ∈ text := by
  rw [← tiles.sources]
  exact List.mem_flatMap.2 ⟨piece, cut, member⟩

theorem source_ne_nil : piece.source ≠ [] := by
  induction pieces generalizing position text with
  | nil => cases cut
  | cons first pieces ih =>
      obtain ⟨-, filled, later, -, tiles⟩ := tiles
      rcases List.mem_cons.1 cut with rfl | cut
      · exact filled
      · exact ih tiles cut

end Match.Tiles

theorem Text.upper_flatMap {α : Type} (pieces : List α) (written : α → Text) :
    upper (pieces.flatMap written) = pieces.flatMap fun piece => upper (written piece) :=
  List.flatMap_assoc ..

namespace Romanizer
variable {text : Text} {pieces : List (Match Text)} {piece : Match Text}

theorem upper_capitalized (piece : Match Text) :
    (capitalized piece).upper = piece.token.upper := by
  rw [capitalized]
  split
  · exact Text.upper_upper _
  · rfl

structure SetInCapitals (text raised plain : Text) : Prop where
  katakana : (∀ character ∈ text, CharacterClass.katakana.holds character = true) →
    raised = plain.upper
  other : (∀ character ∈ text, CharacterClass.katakana.holds character = false) → raised = plain
  alike : raised.upper = plain.upper

theorem setInCapitals {position : Nat} (tiles : Match.Tiles position text pieces) :
    SetInCapitals text (pieces.flatMap capitalized) (pieces.flatMap Match.token) where
  katakana := fun all => by
    rw [Text.upper_flatMap]
    refine List.flatMap_congr fun piece cut => ?_
    have whole : CharacterClass.katakana.holdsAll piece.source = true := by
      simpa [CharacterClass.holdsAll, tiles.source_ne_nil cut] using
        fun character member => all character (tiles.mem_of_mem_source cut member)
    rw [capitalized, if_pos whole]
  other := fun none => by
    refine List.flatMap_congr fun piece cut => ?_
    obtain ⟨character, rest, source⟩ := List.exists_cons_of_ne_nil (tiles.source_ne_nil cut)
    have first := none character (tiles.mem_of_mem_source cut (by simp [source]))
    have partly : ¬ CharacterClass.katakana.holdsAll piece.source = true := by
      simp [CharacterClass.holdsAll, source, first]
    rw [capitalized, if_neg partly]
  alike := by
    rw [Text.upper_flatMap, Text.upper_flatMap]
    exact List.flatMap_congr fun piece _ => upper_capitalized piece

/--
Two reports on a text, with the same rules, of which the first sets katakana in capitals. Both are
refused for an empty path, or both account for the text with the same pieces.
-/
inductive InCapitals (mapping : Option (Mapping Text)) (text converter : Text)
    (raised plain : Report) : Prop
  | refused (filled : text ≠ []) (empty : [] ∈ Mapping.pathsOf mapping)
      (raisedFails : raised.outcome = .error .emptyPath)
      (plainFails : plain.outcome = .error .emptyPath) (notices : raised.notices = plain.notices)
  | taken (active : Trie Text) (pieces : List (Match Text)) (capitals small : Text)
      (raisedAccounts : raised.Accounts text converter (fun _ => active) capitalized pieces)
      (plainAccounts : plain.Accounts text converter (fun _ => active) Match.token pieces)
      (notices : raised.notices = plain.notices) (written : raised.outcome = .ok capitals)
      (writtenPlain : plain.outcome = .ok small) (differ : SetInCapitals text capitals small)

theorem notices_convert (romanizer : Romanizer) (text : Text) (choice other : Choice)
    (call : Option (Mapping Text)) : (romanizer.convert text choice call).notices =
      (romanizer.convert text other call).notices := by
  unfold convert
  split
  · rfl
  · dsimp only
    split <;> rfl

theorem inCapitals {romanizer : Romanizer} {raising off : Choice}
    (raises : romanizer.capitalizes raising = true) (plain : romanizer.capitalizes off = false)
    (call : Option (Mapping Text)) (text : Text) :
    InCapitals call text romanizer.name (romanizer.convert text raising call)
      (romanizer.convert text off call) := by
  have notices := romanizer.notices_convert text raising off call
  rcases romanizer.accounted call with ⟨empty, fails⟩ | ⟨active, given, accounts⟩
  · by_cases filled : text = []
    · subst filled
      have tiles : Match.Tiles 0 [] ([] : List (Match Text)) := rfl
      have blank (choice : Choice) (written : Match Text → Text) :
          (romanizer.convert [] choice call).Accounts [] romanizer.name
            (fun _ => romanizer.active) written [] :=
        Report.Covers.accounts ⟨rfl, rfl⟩ rfl (by simp)
      exact .taken romanizer.active [] [] [] (blank ..) (blank ..) notices rfl rfl
        (setInCapitals tiles)
    · exact .refused filled empty (fails text filled raising).2 (fails text filled off).2 notices
  · have raisedAccounts := accounts text raising
    have plainAccounts := accounts text off
    rw [raises, if_pos rfl] at raisedAccounts
    simp only [plain, Bool.false_eq_true, if_false] at plainAccounts
    exact .taken active (active.tokenize text) _ _ raisedAccounts plainAccounts notices
      raisedAccounts.outcome plainAccounts.outcome (setInCapitals raisedAccounts.tiles)

end Romanizer

namespace Transliteration
open Registry

/--
With katakana set in capitals a text is cut, told of and refused as it is without. What is written
for a text in katakana is in capitals altogether, what is written for one without katakana is the
same, and what is written for any text becomes the same in capitals.
-/
theorem toRomaji_inCapitals {named : Datum} {method : Method}
    (parsed : Method.parse named = .ok method) {off : Choice} (unchosen : off.taken = false)
    (history later : List Request) (mapping : Option (Mapping Text)) (text : Text) :
    ∃ romanizer, Romanizer.plain method = .ok romanizer ∧
      (Steps.run (toRomaji text named (some true) mapping) (after history)).1 =
        (romanizer.convert text (some true) mapping).outcome ∧
      (Steps.run (toRomaji text named off mapping) (after later)).1 =
        (romanizer.convert text off mapping).outcome ∧
      Romanizer.InCapitals mapping text romanizer.name
        (romanizer.convert text (some true) mapping) (romanizer.convert text off mapping) := by
  obtain ⟨romanizer, plain, capitalizes, -⟩ := Romanizer.plain_holds method
  have chosen : romanizer.capitalizes (some true) = true := capitalizes _
  have small : romanizer.capitalizes off = false := (capitalizes off).trans unchosen
  refine ⟨romanizer, plain, ?_, ?_, Romanizer.inCapitals chosen small mapping text⟩
  · rw [run_toRomaji, romajiOf_of_plain parsed plain]
  · rw [run_toRomaji, romajiOf_of_plain parsed plain]

def mixedRule : Mapping Text :=
  .sequence [(.text "シュす".toList, "ßu".toList)]

theorem toRomaji_inCapitals_mixed :
    Method.parse (.text " Kunrei".toList) = .ok .kunrei ∧ Choice.taken none = false ∧
      ∃ romanizer, Romanizer.plain .kunrei = .ok romanizer ∧
        (Steps.run (toRomaji "シュすシ".toList (.text " Kunrei".toList) (some true) (some mixedRule))
          (after [])).1 = (romanizer.convert "シュすシ".toList (some true) (some mixedRule)).outcome ∧
        (Steps.run (toRomaji "シュすシ".toList (.text " Kunrei".toList) none (some mixedRule))
          (after [.romanizer .kunrei])).1 =
            (romanizer.convert "シュすシ".toList none (some mixedRule)).outcome ∧
        Romanizer.InCapitals (some mixedRule) "シュすシ".toList romanizer.name
          (romanizer.convert "シュすシ".toList (some true) (some mixedRule))
          (romanizer.convert "シュすシ".toList none (some mixedRule)) :=
  have parsed : Method.parse (.text " Kunrei".toList) = .ok .kunrei := by rfl
  ⟨parsed, rfl, toRomaji_inCapitals parsed rfl [] [.romanizer .kunrei] (some mixedRule) _⟩

end Transliteration
end Honji
