import Honji.Proofs.Kana
import Mathlib.Data.Set.Function

/-!
The two shifts as inverse bijections. A text comes back from the other script if and only if it has
no letter of that script, so that the texts without katakana letters and those without hiragana
letters correspond. The shifts keep the classes of characters, but for the signs at the end of the
katakana that have no letter of hiragana.
-/

namespace Honji
namespace Kana

def isUnpaired (character : Char) : Bool :=
  0x30F7 ≤ character.toNat && character.toNat ≤ 0x30FB

theorem isUnpaired_iff {character : Char} :
    isUnpaired character = true ↔ 0x30F7 ≤ character.toNat ∧ character.toNat ≤ 0x30FB := by
  simp [isUnpaired]

theorem eq_prolongedSound_iff {character : Char} :
    character = prolongedSound ↔ character.toNat = 0x30FC := by
  rw [← Char.toNat_inj]
  rfl

end Kana

/-! ### Classes of characters -/

namespace CharacterClass

theorem holds_hiragana_iff {character : Char} : hiragana.holds character = true ↔
    Kana.isHiraganaLetter character = true ∨ character.toNat = 0x30FC := by
  simp [holds, Kana.eq_prolongedSound_iff]

theorem holds_katakana_iff {character : Char} : katakana.holds character = true ↔
    0x30A1 ≤ character.toNat ∧ character.toNat ≤ 0x30FC := by
  simp [holds]

theorem holds_katakanaOf {character : Char} (inside : hiragana.holds character = true) :
    katakana.holds (Kana.katakanaOf character) = true := by
  rw [holds_katakana_iff]
  rcases holds_hiragana_iff.1 inside with letter | sign
  · have bounds := Kana.isHiraganaLetter_iff.1 letter
    rw [Kana.toNat_katakanaOf letter]
    omega
  · have other : Kana.isHiraganaLetter character = false := by
      rw [← Bool.not_eq_true, Kana.isHiraganaLetter_iff]
      omega
    rw [Kana.katakanaOf_of_not other]
    omega

theorem holds_hiraganaOf_iff {character : Char} (inside : katakana.holds character = true) :
    hiragana.holds (Kana.hiraganaOf character) = true ↔ Kana.isUnpaired character = false := by
  rw [holds_hiragana_iff, ← Bool.not_eq_true, Kana.isUnpaired_iff]
  rcases Bool.eq_false_or_eq_true (Kana.isKatakanaLetter character) with letter | other
  · have bounds := Kana.isKatakanaLetter_iff.1 letter
    rw [Kana.isHiraganaLetter_iff, Kana.toNat_hiraganaOf letter]
    omega
  · have beyond := mt Kana.isKatakanaLetter_iff.2 (Bool.eq_false_iff.1 other)
    have bounds := holds_katakana_iff.1 inside
    rw [Kana.hiraganaOf_of_not other, Kana.isHiraganaLetter_iff]
    omega

theorem holdsAll_iff {kind : CharacterClass} {text : Text} : kind.holdsAll text = true ↔
    text ≠ [] ∧ ∀ character ∈ text, kind.holds character = true := by
  simp [holdsAll]

theorem holdsAll_toKatakana {text : Text} (inside : hiragana.holdsAll text = true) :
    katakana.holdsAll (Kana.toKatakana text) = true := by
  obtain ⟨filled, each⟩ := holdsAll_iff.1 inside
  refine holdsAll_iff.2 ⟨mt Kana.toKatakana_eq_nil.1 filled, fun shifted member => ?_⟩
  obtain ⟨character, written, rfl⟩ := List.mem_map.1 member
  exact holds_katakanaOf (each character written)

theorem holdsAll_toHiragana_iff {text : Text} (inside : katakana.holdsAll text = true) :
    hiragana.holdsAll (Kana.toHiragana text) = true ↔
      ∀ character ∈ text, Kana.isUnpaired character = false := by
  obtain ⟨filled, each⟩ := holdsAll_iff.1 inside
  rw [holdsAll_iff, Kana.toHiragana, List.forall_mem_map]
  constructor
  · rintro ⟨-, held⟩ character written
    exact (holds_hiraganaOf_iff (each character written)).1 (held character written)
  · intro paired
    exact ⟨mt List.map_eq_nil_iff.1 filled, fun character written =>
      (holds_hiraganaOf_iff (each character written)).2 (paired character written)⟩

end CharacterClass

/-! ### Inverse shifts -/

namespace Kana

structure Shifts (text : Text) : Prop where
  backToHiragana : toHiragana (toKatakana text) = text ↔ noKatakana text = true
  backToKatakana : toKatakana (toHiragana text) = text ↔ noHiragana text = true
  length_toKatakana : (toKatakana text).length = text.length
  length_toHiragana : (toHiragana text).length = text.length
  again_toKatakana : toKatakana (toKatakana text) = toKatakana text
  again_toHiragana : toHiragana (toHiragana text) = toHiragana text
  append_toKatakana : ∀ other, toKatakana (text ++ other) = toKatakana text ++ toKatakana other
  append_toHiragana : ∀ other, toHiragana (text ++ other) = toHiragana text ++ toHiragana other
  inKatakana : CharacterClass.hiragana.holdsAll text = true →
    CharacterClass.katakana.holdsAll (toKatakana text) = true
  inHiragana : CharacterClass.katakana.holdsAll text = true →
    (CharacterClass.hiragana.holdsAll (toHiragana text) = true ↔
      ∀ character ∈ text, isUnpaired character = false)

theorem invOn_shifts : Set.InvOn toHiragana toKatakana
    {text | noKatakana text = true} {text | noHiragana text = true} :=
  ⟨fun _ plain => toHiragana_toKatakana plain,
    fun text foreign => (toKatakana_shifted text).trans (toKatakana_of_noHiragana foreign)⟩

/--
A text comes back from a script if and only if it has no letter of that script, and the texts
without katakana letters correspond to those without hiragana letters.
-/
theorem shifts_inverse : (∀ text, Shifts text) ∧
    Set.InvOn toHiragana toKatakana
      {text | noKatakana text = true} {text | noHiragana text = true} ∧
    Set.BijOn toKatakana {text | noKatakana text = true} {text | noHiragana text = true} := by
  refine ⟨fun text => ?_, invOn_shifts, invOn_shifts.bijOn (fun text _ => ?_) fun text _ => ?_⟩
  · constructor
    case backToHiragana => rw [toHiragana_shifted, toHiragana_eq_self_iff]
    case backToKatakana => rw [toKatakana_shifted, toKatakana_eq_self_iff]
    case length_toKatakana => exact List.length_map _
    case length_toHiragana => exact List.length_map _
    case again_toKatakana => exact toKatakana_toKatakana text
    case again_toHiragana => exact toHiragana_toHiragana text
    case append_toKatakana => exact toKatakana_append text
    case append_toHiragana => exact fun other => List.map_append
    case inKatakana => exact CharacterClass.holdsAll_toKatakana
    case inHiragana => exact CharacterClass.holdsAll_toHiragana_iff
  · exact noHiragana_toKatakana text
  · exact noKatakana_toHiragana text

end Kana
end Honji
