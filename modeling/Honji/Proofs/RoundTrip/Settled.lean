import Honji.Proofs.RoundTrip.Retyping

/-!
Romanizing and composing again, unit by unit. What is behind a unit comes back and does not go on
from the letter of the nasal; so the unit comes back too, alone or with the unit behind it.
-/

namespace Honji
open RomanizationRules Composer

namespace Retyping
variable {rules : RomanizationRules} {lost : Text} {trie hiragana katakana : Trie Text}

/--
A text comes back from what it is romanized to. Unless it begins with a kana that the nasal is set
off from, the letter of the nasal does not lead on to what it is romanized to.
-/
structure Settled (rules : RomanizationRules) (trie hiragana katakana : Trie Text)
    (script : Script) (text : Text) : Prop where
  back : compose hiragana katakana (Romanizer.romanize trie script (script.write text)) =
    script.write text
  parts : rules.follows (Path.ofText text) = false →
    ∀ node, (trieOf hiragana katakana script).reach?
        (trieOf hiragana katakana script).root ['n'] = some node →
      (trieOf hiragana katakana script).Halts node
        (Romanizer.romanize trie script (script.write text))

theorem settled_nil (script : Script) : Settled rules trie hiragana katakana script [] := by
  have nothing : script.write [] = [] := Script.write_eq_nil.2 rfl
  refine ⟨?_, fun _ node _ => ?_⟩
  · rw [nothing]
    rfl
  · rw [nothing]
    exact Trie.halts_nil node

theorem ignores_trieOf (retyping : Retyping rules lost trie hiragana katakana) (script : Script) :
    (trieOf hiragana katakana script).caseInsensitive = true := by
  cases script with
  | hiragana => exact retyping.keyboard.ignores
  | katakana => exact retyping.alike.caseInsensitive ▸ retyping.keyboard.ignores

theorem halts_echo (retyping : Retyping rules lost trie hiragana katakana) {script : Script}
    {word : Text} (typed : Text.isWord word = true)
    (parts : (trieOf hiragana katakana script).partsNasal word = true) {node : Node Text}
    (reached : (trieOf hiragana katakana script).reach?
      (trieOf hiragana katakana script).root ['n'] = some node) (later : Text) :
    (trieOf hiragana katakana script).Halts node (ComposerRules.echo script word ++ later) := by
  obtain ⟨letter, rest, rfl⟩ := List.exists_cons_of_ne_nil (show word ≠ [] by
    rintro rfl
    simp [Text.isWord] at typed)
  have absent : (trieOf hiragana katakana script).step? node [letter] = none := by
    rw [Trie.step?_eq_none_iff reached]
    simpa [Trie.partsNasal] using parts
  cases script with
  | hiragana => exact Trie.halts_cons.2 absent
  | katakana =>
      obtain ⟨capital, form, found, -⟩ :=
        Text.capital_of_isWord typed (show letter ∈ letter :: rest by simp)
      have typedCapital : ComposerRules.echo .katakana (letter :: rest) =
          capital :: Text.upper rest := by
        simp [ComposerRules.echo, Text.upper, form]
      have same : (trieOf hiragana katakana .katakana).step? node [capital] =
          (trieOf hiragana katakana .katakana).step? node [letter] := by
        simp [Trie.step?, Trie.normalize, retyping.ignores_trieOf .katakana, found]
      rw [typedCapital, List.cons_append]
      exact Trie.halts_cons.2 (same.trans absent)

theorem follows_append {text : Text} (filled : text ≠ []) (later : Text) :
    rules.follows (Path.ofText (text ++ later)) = rules.follows (Path.ofText text) := by
  obtain ⟨letter, rest, rfl⟩ := List.exists_cons_of_ne_nil filled
  rfl

theorem follows_long {text token : Text} (spells : rules.Spells lost text token) (later : Text) :
    rules.follows (Path.ofText (text ++ prolongedSound ++ later)) =
      rules.follows (Path.ofText text) := by
  have filled : text ≠ [] := mt Path.ofText_eq_nil.2 (doubledRules_ne_nil spells.listed)
  rw [List.append_assoc, follows_append filled]

theorem write_long (text later : Text) :
    Script.katakana.write (text ++ prolongedSound ++ later) =
      Kana.toKatakana text ++ prolongedSound ++ Script.katakana.write later := by
  rw [Script.write_append, Script.write_append]
  rfl

def KeepsLong (rules : RomanizationRules) (lost : Text) (katakana : Trie Text) : Prop :=
  rules.longVowel = .hyphenated ∨ (rules.longVowel = .macron ∧ LongTypable rules lost katakana)

section
variable (retyping : Retyping rules lost trie hiragana katakana) (script : Script)
include retyping

theorem compose_spells {text token : Text} (spells : rules.Spells lost text token)
    (later : Text) :
    compose hiragana katakana (ComposerRules.echo script token ++ later) =
      script.write text ++ compose hiragana katakana later :=
  have back := retyping.typesBack script spells
  compose_word_of_endsOn retyping.alike retyping.keyboard.ignores script back.typed back.ends later

theorem settle_mora {text token later : Text} (spells : rules.Spells lost text token)
    (settled : Settled rules trie hiragana katakana script later)
    (written : Romanizer.romanize trie script (script.write (text ++ later)) =
      ComposerRules.echo script token ++ Romanizer.romanize trie script (script.write later)) :
    Settled rules trie hiragana katakana script (text ++ later) := by
  have back := retyping.typesBack script spells
  refine ⟨?_, fun apart node reached => ?_⟩
  · rw [written, retyping.compose_spells script spells, settled.back, Script.write_append]
  · rw [follows_append (mt Path.ofText_eq_nil.2 (doubledRules_ne_nil spells.listed))] at apart
    have parts := back.parts.resolve_left (by simp [apart])
    exact written ▸ retyping.halts_echo back.typed parts reached _

theorem settle_mark {entry : Text × Text} (listed : entry ∈ punctuationMarks.entries)
    (visible : entry.1 ≠ ideographicSpace) {later : Text}
    (settled : Settled rules trie hiragana katakana script later) :
    Settled rules trie hiragana katakana script (entry.1 ++ later) := by
  obtain ⟨single, filled, uncapital, small, ends, parts⟩ :=
    retyping.keyboard.marks entry listed visible
  have written := Romanizer.romanize_mark retyping.wellFormed retyping.caseSensitive retyping.holds
    script (retyping.marks ▸ listed) single uncapital later
  have unshifted := retyping.wellFormed.write_mark script
    (show entry.1 ∈ rules.punctuation.keys from retyping.marks ▸ List.mem_map_of_mem listed)
  refine ⟨?_, fun _ node reached => ?_⟩
  · rw [written, compose_mark retyping.alike filled small ends, settled.back, Script.write_append,
      unshifted]
  · obtain ⟨letter, rest, whole⟩ := List.exists_cons_of_ne_nil filled
    have absent := parts script script.mem_all
    rw [whole] at absent
    rw [written, whole]
    refine Trie.halts_cons.2 ((Trie.step?_eq_none_iff reached letter).2 ?_)
    simpa [Trie.partsNasal] using absent

theorem settle_nasal {later : Text} (plain : Kana.noKatakana later = true)
    (glideless : ∀ character ∈ later.head?, [character] ∉ glides)
    (apart : rules.follows (Path.ofText later) = false)
    (settled : Settled rules trie hiragana katakana script later) :
    Settled rules trie hiragana katakana script (nasal ++ later) := by
  have written := retyping.romanize_nasal script plain glideless apart
  obtain ⟨known, -, parts⟩ := retyping.keyboard.nasal script script.mem_all
  obtain ⟨node, reached, token⟩ := (Option.any_eq_true _ _).1 known
  refine ⟨?_, fun _ node reached => ?_⟩
  · rw [written, compose_word retyping.alike retyping.keyboard.ignores script (by decide) reached
      (settled.parts apart node reached), settled.back, Script.write_append, beq_iff_eq.1 token]
  · exact written ▸ retyping.halts_echo (by decide) parts reached _

theorem settle_follower {entry : Text × Text} (follower : entry ∈ rules.nasalFollowers.entries)
    {later : Text} (plain : Kana.noKatakana later = true)
    (glideless : ∀ character ∈ later.head?, [character] ∉ glides)
    (settled : Settled rules trie hiragana katakana script later) :
    Settled rules trie hiragana katakana script (nasal ++ entry.1 ++ later) := by
  have written := retyping.romanize_follower script follower plain glideless
  obtain ⟨-, ends, parts⟩ := retyping.keyboard.nasal script script.mem_all
  have echoes : ComposerRules.echo script (['n', '\''] ++ entry.2) =
      ComposerRules.echo script ['n', '\''] ++ ComposerRules.echo script entry.2 := by
    cases script with
    | hiragana => rfl
    | katakana => exact Text.upper_append ..
  rw [echoes] at written
  refine ⟨?_, fun _ node reached => ?_⟩
  · rw [written, List.append_assoc,
      compose_word_of_endsOn retyping.alike retyping.keyboard.ignores script (by decide) ends,
      retyping.compose_spells script (retyping.spells_follower follower),
      settled.back, Script.write_append, Script.write_append, List.append_assoc]
  · have first : (trieOf hiragana katakana script).partsNasal ['n', '\''] = true := parts
    rw [written, List.append_assoc]
    exact retyping.halts_echo (by decide) first reached _

section
variable {text token later : Text} (spells : rules.Spells lost text token)
  (lasts : prolongs (Path.ofText text, token) = true) (plain : Kana.noKatakana later = true)
  (glideless : ∀ character ∈ later.head?, [character] ∉ glides)
  (settled : Settled rules trie hiragana katakana .katakana later)
include spells lasts plain glideless settled

theorem settle_hyphen (hyphen : rules.longVowel = .hyphenated) :
    Settled rules trie hiragana katakana .katakana (text ++ prolongedSound ++ later) := by
  have written := retyping.romanize_long spells lasts plain glideless
  have back := retyping.typesBack .katakana spells
  have sign : (prolongedSound, ['-']) ∈ punctuationMarks.entries := by decide +kernel
  obtain ⟨-, -, -, small, ends, -⟩ := retyping.keyboard.marks _ sign (by decide)
  have hyphenated : ComposerRules.echo .katakana (rules.longVowel.lengthen token) =
      ComposerRules.echo .katakana token ++ ['-'] := by
    rw [hyphen]
    exact Text.upper_append ..
  rw [hyphenated] at written
  refine ⟨?_, fun apart node reached => ?_⟩
  · rw [written, List.append_assoc, retyping.compose_spells .katakana spells,
      compose_mark retyping.alike (by simp) small ends, settled.back, write_long, List.append_assoc]
    rfl
  · have parts := back.parts.resolve_left (by rw [← follows_long spells later, apart]; simp)
    rw [written, List.append_assoc]
    exact retyping.halts_echo back.typed parts reached _

theorem settle_macron (macron : rules.longVowel = .macron)
    (typable : LongTypable rules lost katakana) :
    Settled rules trie hiragana katakana .katakana (text ++ prolongedSound ++ later) := by
  have written := retyping.romanize_long spells lasts plain glideless
  obtain ⟨vowel, back⟩ := typable _ spells.listed spells.survives lasts
  obtain ⟨last, ends, vowel⟩ := (Option.any_eq_true _ _).1 vowel
  rw [macron, LongVowel.lengthen_macron ends (by simpa using vowel)] at written
  rw [Path.joined_ofText] at back
  have leads : (trieOf hiragana katakana .katakana).endsOn (LongVowel.withMacron token)
      (Kana.toKatakana text ++ prolongedSound) = true := back.ends
  refine ⟨?_, fun apart node reached => ?_⟩
  · rw [written, compose_word_of_endsOn retyping.alike retyping.keyboard.ignores .katakana
      back.typed leads, settled.back, write_long]
  · have parts : (trieOf hiragana katakana .katakana).partsNasal (LongVowel.withMacron token) =
        true :=
      back.parts.resolve_left (by rw [← follows_long spells later, apart]; simp)
    exact written ▸ retyping.halts_echo back.typed parts reached _

theorem settle_long (keeps : KeepsLong rules lost katakana) :
    Settled rules trie hiragana katakana .katakana (text ++ prolongedSound ++ later) := by
  rcases keeps with hyphen | ⟨macron, typable⟩
  · exact retyping.settle_hyphen spells lasts plain glideless settled hyphen
  · exact retyping.settle_macron spells lasts plain glideless settled macron typable

end

end
end Retyping
end Honji
