import Honji.Proofs.RoundTrip.Typable
import Honji.Proofs.RoundTrip.Romanized

/-!
The units that a text is put together from: the morae of a method that it does not write as others,
and the marks that can be seen. A unit begins neither with a small glide nor, unless it is one kana,
with a kana that the nasal is set off from.
-/

namespace Honji
open RomanizationRules Composer

/-- A mora without the kana that its method loses, or a mark that is not a space. -/
inductive Retypable (method : Method) : Text → Prop
  | mora {text : Text} (mora : (ofMethod method).Mora text)
      (kept : ∀ letter ∈ text, letter ∉ method.lostKana) : Retypable method text
  | mark {text : Text} (known : text ∈ (ofMethod method).punctuation.keys)
      (visible : text ≠ ideographicSpace) : Retypable method text

structure RomanizationRules.Spells (rules : RomanizationRules) (lost : Text) (text token : Text) :
    Prop where
  listed : (Path.ofText text, token) ∈ rules.doubledRules
  survives : survives lost (Path.ofText text) = true

theorem glides_small : ∀ glide ∈ glides, glide ∈ smallKana := by
  decide

section
variable {rules : RomanizationRules} {lost : Text} {hiragana katakana : Trie Text}
  (wellFormed : rules.WellFormed) (typable : Typable rules lost hiragana katakana)
include wellFormed

theorem smallTsu_not_mem : smallTsu ∉ rules.syllabary.keys := by
  intro member
  obtain ⟨entry, listed, same⟩ := List.mem_map.1 member
  exact wellFormed.smallTsuFree
    (List.mem_map.2 ⟨_, mem_plainRules_of_entry listed, by rw [← same]⟩)

theorem contraction_known {kana : Text} (known : kana ∈ rules.contractions.keys) :
    kana ∈ rules.syllabary.keys := by
  obtain ⟨entry, listed, rfl⟩ := List.mem_map.1 known
  obtain ⟨other, member, same⟩ :=
    List.mem_map.1 (mem_syllableRules (wellFormed.contracted entry listed).1)
  have kana : other.1 = entry.1 := by simpa using (Prod.mk.inj same).1
  exact kana ▸ List.mem_map.2 ⟨other, member, rfl⟩

include typable

theorem RomanizationRules.PlainMora.path {text : Text} (mora : rules.PlainMora text) :
    (Path.ofText text = [text] ∧ text ∉ smallKana ∧ text ≠ smallTsu) ∨
      ∃ kana glide, Path.ofText text = [kana, glide] ∧ kana ∈ rules.contractions.keys ∧
        kana ≠ smallTsu ∧ glide ∈ glides := by
  have one {kana : Text} (known : kana ∈ rules.syllabary.keys) : kana.length = 1 := by
    obtain ⟨entry, listed, rfl⟩ := List.mem_map.1 known
    exact typable.single _ (plain_subset_doubled (mem_plainRules_of_entry listed)) entry.1 (by simp)
  have glideLength : ∀ glide ∈ glides, glide.length = 1 := by decide
  cases mora with
  | single known large =>
      refine .inl ⟨Path.ofText_eq_singleton (one known), large, ?_⟩
      rintro rfl
      exact smallTsu_not_mem wellFormed known
  | @contracted kana glide known small =>
      have inTable := contraction_known wellFormed known
      refine .inr ⟨kana, glide, ?_, known, ?_, small⟩
      · rw [Path.ofText_append, Path.ofText_eq_singleton (one inTable),
          Path.ofText_eq_singleton (glideLength glide small)]
        rfl
      · rintro rfl
        exact smallTsu_not_mem wellFormed inTable

theorem survives_of_plainMora {text : Text} (mora : rules.PlainMora text)
    (kept : ∀ letter ∈ text, letter ∉ lost) (other : text ≠ nasal) :
    survives lost (Path.ofText text) = true := by
  have lostNone : text.all (!lost.contains ·) = true := by
    simpa [List.all_eq_true, List.contains_iff_mem] using kept
  simp only [survives, Path.joined_ofText, lostNone, Bool.true_and, Bool.and_eq_true]
  rcases mora.path wellFormed typable with
    ⟨path, large, notTsu⟩ | ⟨kana, glide, path, known, notTsu, -⟩
  · rw [path]
    simp [other, large, notTsu]
  · have notNasal : kana ≠ nasal := (typable.contracted kana known).2.2
    have long : text ∉ smallKana := by
      intro small
      have lengths : ∀ kana ∈ smallKana, kana.length = 1 := by decide
      have two : (Path.ofText text).length = 2 := by rw [path]; rfl
      have one := lengths text small
      simp [Path.ofText, one] at two
    rw [path]
    simp [notNasal, notTsu, long]

theorem RomanizationRules.Mora.spells {text : Text} (mora : rules.Mora text)
    (kept : ∀ letter ∈ text, letter ∉ lost) :
    text = nasal ∨ ∃ token, rules.Spells lost text token := by
  by_cases other : text = nasal
  · exact .inl other
  obtain ⟨token, listed⟩ := mora.exists_rule wellFormed typable.single
  refine .inr ⟨token, listed, ?_⟩
  cases mora with
  | plain mora => exact survives_of_plainMora wellFormed typable mora kept other
  | @doubled text mora doubles spared =>
      have kept : (smallTsu ++ text).all (!lost.contains ·) = true :=
        List.all_eq_true.2 fun letter member => by simpa using kept letter member
      have filled : text ≠ [] := by
        rintro rfl
        rcases mora.path wellFormed typable with ⟨path, -⟩ | ⟨kana, glide, path, -⟩ <;>
          simp [Path.ofText] at path
      obtain ⟨letter, rest, rfl⟩ := List.exists_cons_of_ne_nil filled
      have long : smallTsu ++ letter :: rest ∉ smallKana := by
        intro small
        have lengths : ∀ kana ∈ smallKana, kana.length = 1 := by decide
        have one := lengths _ small
        simp [smallTsu] at one
      have differs : smallTsu ≠ nasal := by decide
      simp only [survives, Path.joined_ofText, kept, Bool.true_and, Bool.and_eq_true]
      have tsu : Path.ofText smallTsu = [smallTsu] := rfl
      rw [Path.ofText_append, tsu]
      simp_all [Path.ofText]

/-! ### The beginning of a unit -/

theorem RomanizationRules.Mora.begins {text : Text} (mora : rules.Mora text) :
    ∃ letter rest, text = letter :: rest ∧ [letter] ∉ glides ∧
      ([letter] ∈ rules.nasalFollowers.keys → rest = []) := by
  have ofPath {letter : Symbol} {text : Text} {path : Path}
      (whole : Path.ofText text = letter :: path) :
      ∃ character rest, text = character :: rest ∧ letter = [character] ∧
        Path.ofText rest = path := by
    cases text with
    | nil => simp [Path.ofText] at whole
    | cons character rest =>
        obtain ⟨rfl, rfl⟩ := List.cons.inj whole
        exact ⟨character, rest, rfl, rfl, rfl⟩
  cases mora with
  | plain mora =>
      rcases mora.path wellFormed typable with ⟨path, large, -⟩ | ⟨kana, glide, path, known, -, -⟩
      · obtain ⟨letter, rest, rfl, same, empty⟩ := ofPath path
        refine ⟨letter, rest, rfl, ?_, fun _ => Path.ofText_eq_nil.1 empty⟩
        exact fun small => large (same ▸ glides_small _ small)
      · obtain ⟨letter, rest, rfl, rfl, -⟩ := ofPath path
        obtain ⟨apart, notGlide, -⟩ := typable.contracted _ known
        exact ⟨letter, rest, rfl, notGlide, fun follower => absurd follower apart⟩
  | @doubled text mora doubles spared =>
      refine ⟨'っ', text, rfl, by decide, fun follower => ?_⟩
      obtain ⟨entry, listed, same⟩ := List.mem_map.1 follower
      have known : entry.1 ∈ rules.syllabary.keys :=
        List.mem_map_of_mem (typable.followers entry listed).1
      rw [same] at known
      exact absurd known (smallTsu_not_mem wellFormed)

theorem RomanizationRules.Mora.letters {text : Text} (mora : rules.Mora text) :
    ∀ character ∈ text, Kana.isHiraganaLetter character = true := by
  obtain ⟨token, listed⟩ := mora.exists_rule wellFormed typable.single
  exact wellFormed.letters_of_mem listed

end

theorem ofMethod_punctuation (method : Method) :
    (ofMethod method).punctuation = punctuationMarks := by
  cases method <;> rfl

namespace Retypable
variable {method : Method} {text : Text}

theorem noKatakana (unit : Retypable method text) : Kana.noKatakana text = true := by
  have wellFormed := ofMethod_wellFormed method
  cases unit with
  | mora mora kept =>
      obtain ⟨hiragana, katakana, -, -, supports⟩ := exists_supports
      have letters := mora.letters wellFormed (supports.typable method)
      simp only [Kana.noKatakana, List.all_eq_true]
      intro character member
      simp [Kana.isKatakanaLetter_of_isHiraganaLetter (letters character member)]
  | mark known visible => exact (wellFormed.marks text known).2

theorem begins (unit : Retypable method text) :
    ∃ letter rest, text = letter :: rest ∧ [letter] ∉ glides ∧
      ([letter] ∈ (ofMethod method).nasalFollowers.keys ∨ letter = Kana.prolongedSound →
        rest = []) := by
  have wellFormed := ofMethod_wellFormed method
  obtain ⟨hiragana, katakana, -, -, supports⟩ := exists_supports
  have typable := supports.typable method
  cases unit with
  | mora mora kept =>
      obtain ⟨letter, rest, rfl, large, alone⟩ := mora.begins wellFormed typable
      have kana := mora.letters wellFormed typable letter (by simp)
      refine ⟨letter, rest, rfl, large, ?_⟩
      rintro (follower | rfl)
      · exact alone follower
      · exact absurd kana (by decide)
  | mark known visible =>
      obtain ⟨entry, listed, rfl⟩ := List.mem_map.1 known
      rw [ofMethod_punctuation] at listed
      have single : entry.1.length = 1 := (supports.1.marks entry listed visible).1
      obtain ⟨letter, whole⟩ := List.length_eq_one_iff.1 single
      have foreign := (wellFormed.marks entry.1 known).1
      rw [whole] at foreign
      refine ⟨letter, [], whole, ?_, fun _ => rfl⟩
      intro small
      have kana : ∀ glide ∈ glides, Kana.noHiragana glide = false := by decide
      simp [kana _ small] at foreign

end Retypable
end Honji
