import Honji.Proofs.RoundTrip.Units

/-!
How morae are romanized. A mora with a rule is written by it, together with the sign of a long vowel
if that goes on from it; the nasal is written together with a kana that it is set off from.
-/

namespace Honji
open RomanizationRules Composer

structure Retyping (rules : RomanizationRules) (lost : Text) (trie hiragana katakana : Trie Text) :
    Prop where
  wellFormed : rules.WellFormed
  caseSensitive : trie.caseInsensitive = false
  holds : trie.root.Holds rules.ruleList
  alike : hiragana.Alike katakana
  keyboard : Keyboard hiragana katakana
  typable : Typable rules lost hiragana katakana
  marks : rules.punctuation = punctuationMarks

namespace Retyping
variable {rules : RomanizationRules} {lost : Text} {trie hiragana katakana : Trie Text}

section
variable (retyping : Retyping rules lost trie hiragana katakana) (script : Script)
include retyping

theorem typesBack {text token : Text} (spells : rules.Spells lost text token) :
    TypesBack rules (Path.ofText text) token (script.write text)
      (trieOf hiragana katakana script) := by
  have back := retyping.typable.words script script.mem_all _ spells.listed spells.survives
  rwa [Path.joined_ofText] at back

theorem letters_of_spells {text token : Text} (spells : rules.Spells lost text token) :
    ∃ letter rest, text = letter :: rest ∧ Kana.isHiraganaLetter letter = true ∧
      rest.all CharacterClass.hiragana.holds = true := by
  have letter := retyping.wellFormed.letters_of_mem spells.listed
  obtain ⟨first, rest, rfl⟩ :=
    List.exists_cons_of_ne_nil (mt Path.ofText_eq_nil.2 (doubledRules_ne_nil spells.listed))
  refine ⟨first, rest, rfl, letter first (by simp), List.all_eq_true.2 fun character member => ?_⟩
  simp [CharacterClass.holds, letter character (List.mem_cons_of_mem _ member)]

theorem unique {path : Path} {token other : Text} (listed : (path, token) ∈ rules.doubledRules)
    (also : (path, other) ∈ rules.doubledRules) : token = other :=
  retyping.holds.unique (doubledRules_ne_nil listed)
    (List.mem_append_left _ (List.mem_append_left _ listed))
    (List.mem_append_left _ (List.mem_append_left _ also))

theorem path_follower {entry : Text × Text} (follower : entry ∈ rules.nasalFollowers.entries) :
    Path.ofText entry.1 = [entry.1] := by
  have listed :=
    plain_subset_doubled (mem_plainRules_of_entry (retyping.typable.followers entry follower).1)
  exact Path.ofText_eq_singleton (retyping.typable.single _ listed entry.1 (by simp))

theorem spells_follower {entry : Text × Text} (follower : entry ∈ rules.nasalFollowers.entries) :
    rules.Spells lost entry.1 entry.2 := by
  obtain ⟨known, survives⟩ := retyping.typable.followers entry follower
  have listed := plain_subset_doubled (mem_plainRules_of_entry known)
  have path := retyping.path_follower follower
  exact ⟨by rwa [path], by rwa [path]⟩

theorem romanize_mora {text token later : Text} (spells : rules.Spells lost text token)
    (plain : Kana.noKatakana later = true)
    (glideless : ∀ character ∈ later.head?, [character] ∉ glides)
    (short : script = .katakana → Kana.prolongedSound ∈ later.head? →
      prolongs (Path.ofText text, token) = false) :
    Romanizer.romanize trie script (script.write (text ++ later)) =
      ComposerRules.echo script token ++ Romanizer.romanize trie script (script.write later) := by
  obtain ⟨letter, rest, rfl, first, others⟩ := retyping.letters_of_spells spells
  refine Romanizer.romanize_rule retyping.wellFormed retyping.caseSensitive retyping.holds script
    (doubledRules_subset script spells.listed) first others plain fun character front member => ?_
  have survives := spells.survives
  rw [Path.ofText_append] at member
  rcases extension retyping.typable.excluded (by simp) member with
    glide | ⟨atNasal, -⟩ | atTsu | ⟨rfl, sign, other, listed, lasts⟩
  · exact glideless character front glide
  · rw [atNasal] at survives
    simp [RomanizationRules.survives] at survives
  · rw [atTsu] at survives
    simp [RomanizationRules.survives] at survives
  · obtain rfl : character = Kana.prolongedSound :=
      List.singleton_inj.1 (show [character] = [Kana.prolongedSound] from sign)
    obtain rfl : other = token := retyping.unique listed spells.listed
    exact absurd lasts (by simp [short rfl front])

theorem romanize_long {text token later : Text} (spells : rules.Spells lost text token)
    (lasts : prolongs (Path.ofText text, token) = true) (plain : Kana.noKatakana later = true)
    (glideless : ∀ character ∈ later.head?, [character] ∉ glides) :
    Romanizer.romanize trie .katakana
        (Script.katakana.write (text ++ prolongedSound ++ later)) =
      ComposerRules.echo .katakana (rules.longVowel.lengthen token) ++
        Romanizer.romanize trie .katakana (Script.katakana.write later) := by
  obtain ⟨letter, rest, rfl, first, others⟩ := retyping.letters_of_spells spells
  have listed : (Path.ofText (letter :: (rest ++ prolongedSound)),
      rules.longVowel.lengthen token) ∈ rules.scriptRules .katakana :=
    List.mem_append_right _ (mem_longRules.2 ⟨_, spells.listed, lasts, by
      rw [← List.cons_append, Path.ofText_append]
      rfl⟩)
  have kana : (rest ++ prolongedSound).all CharacterClass.hiragana.holds = true := by
    rw [List.all_append, others]
    decide
  refine Romanizer.romanize_rule retyping.wellFormed retyping.caseSensitive retyping.holds .katakana
    listed first kana plain fun character front member => ?_
  rw [Path.ofText_append] at member
  rcases extension retyping.typable.excluded (by simp) member with
    glide | ⟨atNasal, -⟩ | atTsu | ⟨-, -, other, longer, -⟩
  · exact glideless character front glide
  · have lengths := congrArg List.length atNasal
    simp [Path.ofText, prolongedSound] at lengths
  · have lengths := congrArg List.length atTsu
    simp [Path.ofText, prolongedSound] at lengths
  · have sign := retyping.wellFormed.inHiragana_of_mem longer prolongedSound (by
      simp [Path.ofText, prolongedSound])
    exact absurd sign (by decide)

theorem romanize_nasal {later : Text} (plain : Kana.noKatakana later = true)
    (glideless : ∀ character ∈ later.head?, [character] ∉ glides)
    (apart : rules.follows (Path.ofText later) = false) :
    Romanizer.romanize trie script (script.write (nasal ++ later)) =
      ComposerRules.echo script ['n'] ++ Romanizer.romanize trie script (script.write later) := by
  have listed : (Path.ofText nasal, ['n']) ∈ rules.doubledRules := by
    have known : rules.syllable nasal ≠ [] := by simp [retyping.typable.nasal]
    have member := mem_syllableRules known
    rw [retyping.typable.nasal] at member
    exact plain_subset_doubled (List.mem_append_left _ (List.mem_append_left _ member))
  have inScript : (Path.ofText ['ん'], ['n']) ∈ rules.scriptRules script :=
    doubledRules_subset script listed
  change Romanizer.romanize trie script (script.write (['ん'] ++ later)) = _
  refine Romanizer.romanize_rule retyping.wellFormed retyping.caseSensitive retyping.holds script
    inScript (by decide) rfl plain fun character front member => ?_
  rw [Path.ofText_append] at member
  rcases extension retyping.typable.excluded (by simp) member with
    glide | ⟨-, follower⟩ | atTsu | ⟨-, -, other, -, lasts⟩
  · exact glideless character front glide
  · cases later with
    | nil => simp at front
    | cons next later =>
        obtain rfl : next = character := by simpa using front
        simp [RomanizationRules.follows, Path.ofText, follower] at apart
  · exact absurd atTsu (by decide)
  · rw [show Path.ofText ['ん'] = [nasal] from rfl, prolongs_nasal] at lasts
    exact absurd lasts (by simp)

theorem romanize_follower {entry : Text × Text} (follower : entry ∈ rules.nasalFollowers.entries)
    {later : Text} (plain : Kana.noKatakana later = true)
    (glideless : ∀ character ∈ later.head?, [character] ∉ glides) :
    Romanizer.romanize trie script (script.write (nasal ++ entry.1 ++ later)) =
      ComposerRules.echo script (['n', '\''] ++ entry.2) ++
        Romanizer.romanize trie script (script.write later) := by
  have spells := retyping.spells_follower follower
  obtain ⟨letter, rest, whole, first, others⟩ := retyping.letters_of_spells spells
  have path := retyping.path_follower follower
  have token : (rules.syllable nasal).take 1 ++ Char.ofNat 0x27 :: entry.2 =
      ['n', '\''] ++ entry.2 := by
    rw [retyping.typable.nasal]
    rfl
  have listed : (Path.ofText ('ん' :: entry.1), ['n', '\''] ++ entry.2) ∈ rules.doubledRules := by
    rw [← token, show Path.ofText ('ん' :: entry.1) = nasal :: Path.ofText entry.1 from rfl, path]
    exact List.mem_append_left _ (List.mem_append_right _ (List.mem_map.2 ⟨entry, follower, rfl⟩))
  have kana : entry.1.all CharacterClass.hiragana.holds = true := by
    simp [whole, CharacterClass.holds, first, others]
  change Romanizer.romanize trie script (script.write ('ん' :: entry.1 ++ later)) = _
  refine Romanizer.romanize_rule retyping.wellFormed retyping.caseSensitive retyping.holds script
    (doubledRules_subset script listed) (by decide) kana plain fun character front member => ?_
  rw [Path.ofText_append, show Path.ofText ('ん' :: entry.1) = nasal :: Path.ofText entry.1 from rfl,
    path] at member
  rcases extension retyping.typable.excluded (by simp) member with
    glide | ⟨atNasal, -⟩ | atTsu | ⟨-, -, other, -, lasts⟩
  · exact glideless character front glide
  · simp at atNasal
  · simp at atTsu
  · rw [prolongs_nasal] at lasts
    exact absurd lasts (by simp)

end
end Retyping
end Honji
