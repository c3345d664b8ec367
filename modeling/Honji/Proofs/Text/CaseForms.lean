import Honji.Proofs.Kana
import Honji.Proofs.Text.Letters
import Mathlib.Data.List.Forall2

/-!
Capital and small forms of the characters that texts to be composed consist of: ASCII, where each
letter has one of either, and kana and kanji, which have no case. A text in capitals is set beside
the same text in hiragana and small letters, character by character.
-/

namespace Honji
namespace Text
open CaseTable

/-! ### Characters without case -/

def isEastern (character : Char) : Bool :=
  0x3041 ≤ character.toNat && character.toNat ≤ 0x9FAF

theorem isEastern_iff {character : Char} :
    isEastern character = true ↔ 0x3041 ≤ character.toNat ∧ character.toNat ≤ 0x9FAF := by
  simp [isEastern]

theorem findSpan_eq_none {α : Type} {spanOf : α → CodeSpan} {entries : List α}
    {low high code : Nat}
    (apart : ∀ entry ∈ entries, (spanOf entry).last < low ∨ high < (spanOf entry).first)
    (after : low ≤ code) (before : code ≤ high) : findSpan spanOf code entries = none := by
  induction entries with
  | nil => rfl
  | cons entry entries ih =>
      obtain ⟨here, rest⟩ := List.forall_mem_cons.1 apart
      have outside : (spanOf entry).contains code = false := by
        simp only [CodeSpan.contains, Bool.and_eq_false_iff, decide_eq_false_iff_not]
        omega
      simp [findSpan, outside, ih rest]

theorem tables_apart :
    (∀ span ∈ capitals, span.last < 0x3041 ∨ 0x9FAF < span.first) ∧
      (∀ entry ∈ longCapital, entry.1 < 0x3041 ∨ 0x9FAF < entry.1) ∧
      (∀ shift ∈ toCapital, shift.span.last < 0x3041 ∨ 0x9FAF < shift.span.first) ∧
      (∀ entry ∈ longSmall, entry.1 < 0x3041 ∨ 0x9FAF < entry.1) ∧
      ∀ shift ∈ toSmall, shift.span.last < 0x3041 ∨ 0x9FAF < shift.span.first := by
  decide +kernel

section
variable {character : Char} (eastern : isEastern character = true)
include eastern

theorem shiftBy_of_isEastern {shifts : List CodeShift}
    (apart : ∀ shift ∈ shifts, shift.span.last < 0x3041 ∨ 0x9FAF < shift.span.first) :
    shiftBy shifts character = character := by
  obtain ⟨after, before⟩ := isEastern_iff.1 eastern
  rw [shiftBy, findSpan_eq_none apart after before]

theorem lookup_of_isEastern {entries : List (Nat × List Nat)}
    (apart : ∀ entry ∈ entries, entry.1 < 0x3041 ∨ 0x9FAF < entry.1) :
    entries.lookup character.toNat = none := by
  obtain ⟨after, before⟩ := isEastern_iff.1 eastern
  refine List.lookup_eq_none_iff.2 fun entry member => ?_
  have outside := apart entry member
  simp only [bne_iff_ne]
  omega

theorem inSpans_capitals_of_isEastern : inSpans capitals character = false := by
  obtain ⟨after, before⟩ := isEastern_iff.1 eastern
  have unlisted : findSpan id character.toNat capitals = none :=
    findSpan_eq_none tables_apart.1 after before
  rw [inSpans, unlisted]
  rfl

theorem capitalForm_of_isEastern : capitalForm character = [character] := by
  obtain ⟨-, listed, moved, -⟩ := tables_apart
  rw [capitalForm, lookup_of_isEastern eastern listed, shiftBy_of_isEastern eastern moved]

theorem smallForm_of_isEastern : smallForm character = [character] := by
  obtain ⟨-, -, -, listed, moved⟩ := tables_apart
  rw [smallForm, lookup_of_isEastern eastern listed, shiftBy_of_isEastern eastern moved]

end

theorem isEastern_hiraganaOf {character : Char} (eastern : isEastern character = true) :
    isEastern (Kana.hiraganaOf character) = true := by
  unfold Kana.hiraganaOf
  split
  · next katakana =>
    have bounds := Kana.isKatakanaLetter_iff.1 katakana
    rw [Kana.shift, isEastern_iff, Kana.toNat_ofNat (by omega)]
    omega
  · exact eastern

/-! ### ASCII -/

theorem hiraganaOf_of_ascii {character : Char} (ascii : character.toNat < 0x80) :
    Kana.hiraganaOf character = character := by
  have other : Kana.isKatakanaLetter character = false := by
    rw [← Bool.not_eq_true, Kana.isKatakanaLetter_iff]
    omega
  simp [Kana.hiraganaOf, other]

def smallOf (character : Char) : Char :=
  (smallForm character).headD character

@[mk_iff]
structure TwoForms (character : Char) : Prop where
  capital : capitalForm character = [capitalOf character]
  small : smallForm character = [smallOf character]
  capitalCode : (capitalOf character).toNat < 0x80
  smallCode : (smallOf character).toNat < 0x80
  raised : capitalForm (smallOf character) = [capitalOf character]
  raisedTwice : capitalForm (capitalOf character) = [capitalOf character]
  lowered : lower [capitalOf character] = [smallOf character]
  loweredTwice : lower [smallOf character] = [smallOf character]
  notCapital : inSpans capitals (smallOf character) = false
  notSmall : inSpans smalls (capitalOf character) = false
  notTitle : inSpans titles (capitalOf character) = false
  same : inSpans capitals (capitalOf character) = false → smallOf character = capitalOf character

instance (character : Char) : Decidable (TwoForms character) :=
  decidable_of_iff' _ (twoForms_iff character)

theorem twoForms_of_ascii {character : Char} (ascii : character.toNat < 0x80) :
    TwoForms character := by
  have all : ∀ code < 0x80, TwoForms (Char.ofNat code) := by decide +kernel
  have known := all character.toNat ascii
  rwa [Char.ofNat_toNat] at known

/-! ### Texts -/

theorem lowerAfter_eq (before : Text) {text : Text} (plain : 'Σ' ∉ text) :
    lowerAfter before text = text.flatMap smallForm := by
  induction text generalizing before with
  | nil => rfl
  | cons character rest ih =>
      obtain ⟨here, later⟩ : 'Σ' ≠ character ∧ 'Σ' ∉ rest := by simpa using plain
      rw [lowerAfter, if_neg (Ne.symm here), ih _ later, List.flatMap_cons]

inductive Beside : Char → Char → Prop
  | ascii {character : Char} (ascii : character.toNat < 0x80) :
      Beside (capitalOf character) (smallOf character)
  | eastern {character : Char} (eastern : isEastern character = true) :
      Beside character (Kana.hiraganaOf character)

theorem forall₂_beside {text : Text}
    (typed : ∀ character ∈ text, character.toNat < 0x80 ∨ isEastern character = true) :
    List.Forall₂ Beside (upper text) (lower (Kana.toHiragana text)) := by
  have plain : 'Σ' ∉ Kana.toHiragana text := by
    intro member
    obtain ⟨character, inside, sigma⟩ := List.mem_map.1 member
    rcases typed character inside with ascii | eastern
    · rw [hiraganaOf_of_ascii ascii] at sigma
      subst sigma
      exact absurd ascii (by decide)
    · have still := isEastern_hiraganaOf eastern
      rw [sigma] at still
      exact absurd still (by decide)
  rw [lower, lowerAfter_eq [] plain]
  clear plain
  induction text with
  | nil => exact .nil
  | cons character text ih =>
      obtain ⟨here, rest⟩ := List.forall_mem_cons.1 typed
      rw [Kana.toHiragana, List.map_cons, List.flatMap_cons, upper, List.flatMap_cons]
      rcases here with ascii | eastern
      · have forms := twoForms_of_ascii ascii
        rw [hiraganaOf_of_ascii ascii, forms.capital, forms.small]
        exact .cons (.ascii ascii) (ih rest)
      · rw [capitalForm_of_isEastern eastern,
          smallForm_of_isEastern (isEastern_hiraganaOf eastern)]
        exact .cons (.eastern eastern) (ih rest)

end Text
end Honji
