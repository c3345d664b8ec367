import Honji.Kana

/-!
The shift between the two kana scripts. It leads from hiragana letters to katakana letters and
back, and it tells all texts apart that have no katakana letter of their own.
-/

namespace Honji
namespace Kana

def inHiragana (symbol : Symbol) : Bool :=
  !symbol.isEmpty && symbol.all isHiraganaLetter

def noHiragana (text : Text) : Bool :=
  text.all (!isHiraganaLetter ·)

def noKatakana (text : Text) : Bool :=
  text.all (!isKatakanaLetter ·)

/-! ### Characters -/

theorem toNat_ofNat {code : Nat} (valid : code < 0xD800) : (Char.ofNat code).toNat = code := by
  have isValid : code.isValidChar := .inl valid
  rw [Char.ofNat, dif_pos isValid]
  rfl

theorem isHiraganaLetter_iff {character : Char} :
    isHiraganaLetter character = true ↔ 0x3041 ≤ character.toNat ∧ character.toNat ≤ 0x3096 := by
  simp [isHiraganaLetter]

theorem isKatakanaLetter_iff {character : Char} :
    isKatakanaLetter character = true ↔ 0x30A1 ≤ character.toNat ∧ character.toNat ≤ 0x30F6 := by
  rw [isKatakanaLetter, Bool.and_eq_true, decide_eq_true_iff, decide_eq_true_iff]
  rfl

theorem isKatakanaLetter_of_isHiraganaLetter {character : Char}
    (hiragana : isHiraganaLetter character = true) : isKatakanaLetter character = false := by
  rw [isHiraganaLetter_iff] at hiragana
  rw [← Bool.not_eq_true, isKatakanaLetter_iff]
  omega

theorem katakanaOf_of_not {character : Char} (other : isHiraganaLetter character = false) :
    katakanaOf character = character := by
  simp [katakanaOf, other]

theorem toNat_katakanaOf {character : Char} (hiragana : isHiraganaLetter character = true) :
    (katakanaOf character).toNat = character.toNat + 0x60 := by
  have bounds := isHiraganaLetter_iff.1 hiragana
  rw [katakanaOf, if_pos hiragana, shift, toNat_ofNat (by omega)]

theorem isKatakanaLetter_katakanaOf (character : Char) :
    isKatakanaLetter (katakanaOf character) =
      (isHiraganaLetter character || isKatakanaLetter character) := by
  cases hiragana : isHiraganaLetter character with
  | false => simp [katakanaOf_of_not hiragana]
  | true =>
      have bounds := isHiraganaLetter_iff.1 hiragana
      rw [Bool.true_or, isKatakanaLetter_iff, toNat_katakanaOf hiragana]
      omega

@[simp] theorem isHiraganaLetter_katakanaOf (character : Char) :
    isHiraganaLetter (katakanaOf character) = false := by
  cases hiragana : isHiraganaLetter character with
  | false => rw [katakanaOf_of_not hiragana, hiragana]
  | true =>
      have bounds := isHiraganaLetter_iff.1 hiragana
      rw [← Bool.not_eq_true, isHiraganaLetter_iff, toNat_katakanaOf hiragana]
      omega

theorem hiraganaOf_of_not {character : Char} (other : isKatakanaLetter character = false) :
    hiraganaOf character = character := by
  simp [hiraganaOf, other]

theorem toNat_hiraganaOf {character : Char} (katakana : isKatakanaLetter character = true) :
    (hiraganaOf character).toNat = character.toNat - 0x60 := by
  have bounds := isKatakanaLetter_iff.1 katakana
  rw [hiraganaOf, if_pos katakana, shift, toNat_ofNat (by omega)]

@[simp] theorem isKatakanaLetter_hiraganaOf (character : Char) :
    isKatakanaLetter (hiraganaOf character) = false := by
  cases katakana : isKatakanaLetter character with
  | false => rw [hiraganaOf_of_not katakana, katakana]
  | true =>
      have bounds := isKatakanaLetter_iff.1 katakana
      rw [← Bool.not_eq_true, isKatakanaLetter_iff, toNat_hiraganaOf katakana]
      omega

theorem hiraganaOf_katakanaOf (character : Char) :
    hiraganaOf (katakanaOf character) = hiraganaOf character := by
  cases hiragana : isHiraganaLetter character with
  | false => rw [katakanaOf_of_not hiragana]
  | true =>
      have shifted : isKatakanaLetter (katakanaOf character) = true := by
        simp [isKatakanaLetter_katakanaOf, hiragana]
      rw [hiraganaOf_of_not (isKatakanaLetter_of_isHiraganaLetter hiragana), hiraganaOf,
        if_pos shifted, toNat_katakanaOf hiragana, shift, Nat.add_sub_cancel, Char.ofNat_toNat]

theorem katakanaOf_hiraganaOf (character : Char) :
    katakanaOf (hiraganaOf character) = katakanaOf character := by
  cases katakana : isKatakanaLetter character with
  | false => rw [hiraganaOf_of_not katakana]
  | true =>
      have bounds := isKatakanaLetter_iff.1 katakana
      have shifted : isHiraganaLetter (hiraganaOf character) = true := by
        rw [isHiraganaLetter_iff, toNat_hiraganaOf katakana]
        omega
      have plain : isHiraganaLetter character = false := by
        rw [← Bool.not_eq_true, isHiraganaLetter_iff]
        omega
      rw [katakanaOf_of_not plain, katakanaOf, if_pos shifted, toNat_hiraganaOf katakana, shift,
        Nat.sub_add_cancel (by omega), Char.ofNat_toNat]

theorem katakanaOf_eq_prolongedSound {character : Char} :
    katakanaOf character = prolongedSound ↔ character = prolongedSound := by
  cases hiragana : isHiraganaLetter character with
  | false => rw [katakanaOf_of_not hiragana]
  | true =>
      have bounds := isHiraganaLetter_iff.1 hiragana
      constructor
      · intro same
        have code := congrArg Char.toNat same
        rw [toNat_katakanaOf hiragana] at code
        have sign : prolongedSound.toNat = 0x30FC := rfl
        omega
      · rintro rfl
        rfl

/-! ### Texts and paths -/

@[simp] theorem toKatakana_append (first second : Text) :
    toKatakana (first ++ second) = toKatakana first ++ toKatakana second :=
  List.map_append

@[simp] theorem toKatakana_eq_nil {text : Text} : toKatakana text = [] ↔ text = [] :=
  List.map_eq_nil_iff

theorem noHiragana_iff {text : Text} : noHiragana text = true ↔
    ∀ character ∈ text, isHiraganaLetter character = false := by
  simp [noHiragana]

theorem noKatakana_iff {text : Text} : noKatakana text = true ↔
    ∀ character ∈ text, isKatakanaLetter character = false := by
  simp [noKatakana]

@[simp] theorem noHiragana_toKatakana (text : Text) : noHiragana (toKatakana text) = true := by
  simp [noHiragana, toKatakana]

@[simp] theorem noKatakana_toHiragana (text : Text) : noKatakana (toHiragana text) = true := by
  simp [noKatakana, toHiragana]

theorem toKatakana_of_noHiragana {text : Text} (foreign : noHiragana text = true) :
    toKatakana text = text :=
  (List.map_congr_left (g := id) fun character member =>
    katakanaOf_of_not (noHiragana_iff.1 foreign character member)).trans (List.map_id text)

theorem toHiragana_of_noKatakana {text : Text} (plain : noKatakana text = true) :
    toHiragana text = text :=
  (List.map_congr_left (g := id) fun character member =>
    hiraganaOf_of_not (noKatakana_iff.1 plain character member)).trans (List.map_id text)

theorem toKatakana_eq_self_iff {text : Text} :
    toKatakana text = text ↔ noHiragana text = true :=
  ⟨fun same => same ▸ noHiragana_toKatakana text, toKatakana_of_noHiragana⟩

theorem toHiragana_eq_self_iff {text : Text} :
    toHiragana text = text ↔ noKatakana text = true :=
  ⟨fun same => same ▸ noKatakana_toHiragana text, toHiragana_of_noKatakana⟩

theorem toKatakana_toKatakana (text : Text) : toKatakana (toKatakana text) = toKatakana text :=
  toKatakana_of_noHiragana (noHiragana_toKatakana text)

theorem toHiragana_toHiragana (text : Text) : toHiragana (toHiragana text) = toHiragana text :=
  toHiragana_of_noKatakana (noKatakana_toHiragana text)

theorem toHiragana_shifted (text : Text) : toHiragana (toKatakana text) = toHiragana text := by
  rw [toHiragana, toHiragana, toKatakana, List.map_map]
  exact List.map_congr_left fun character _ => hiraganaOf_katakanaOf character

theorem toKatakana_shifted (text : Text) : toKatakana (toHiragana text) = toKatakana text := by
  rw [toKatakana, toKatakana, toHiragana, List.map_map]
  exact List.map_congr_left fun character _ => katakanaOf_hiraganaOf character

theorem toHiragana_toKatakana {text : Text} (plain : noKatakana text = true) :
    toHiragana (toKatakana text) = text :=
  (toHiragana_shifted text).trans (toHiragana_of_noKatakana plain)

theorem noKatakana_of_inHiragana {symbol : Symbol} (hiragana : inHiragana symbol = true) :
    noKatakana symbol = true := by
  simp only [inHiragana, noKatakana, Bool.and_eq_true, List.all_eq_true] at hiragana ⊢
  intro character member
  simp [isKatakanaLetter_of_isHiraganaLetter (hiragana.2 character member)]

theorem toKatakana_ne {symbol : Symbol} (hiragana : inHiragana symbol = true) (text : Text) :
    toKatakana text ≠ symbol := by
  rintro rfl
  cases text <;> simp [inHiragana, toKatakana] at hiragana

theorem toKatakana_inj {first second : Text} (plain : noKatakana first = true)
    (other : noKatakana second = true) : toKatakana first = toKatakana second ↔ first = second := by
  constructor
  · intro same
    rw [← toHiragana_toKatakana plain, same, toHiragana_toKatakana other]
  · exact congrArg toKatakana

theorem map_toKatakana_inj {first second : Path}
    (plain : ∀ symbol ∈ first, noKatakana symbol = true)
    (other : ∀ symbol ∈ second, noKatakana symbol = true) :
    first.map toKatakana = second.map toKatakana ↔ first = second := by
  have back {path : Path} (plain : ∀ symbol ∈ path, noKatakana symbol = true) :
      (path.map toKatakana).map toHiragana = path := by
    rw [List.map_map]
    exact (List.map_congr_left (g := id) fun symbol member =>
      toHiragana_toKatakana (plain symbol member)).trans (List.map_id path)
  constructor
  · intro same
    rw [← back plain, same, back other]
  · exact congrArg _

theorem map_toKatakana_ofText (text : Text) :
    (Path.ofText text).map toKatakana = Path.ofText (toKatakana text) := by
  simp [Path.ofText, toKatakana]

end Kana

namespace Script

@[simp] theorem write_hiragana (text : Text) : Script.hiragana.write text = text := rfl

@[simp] theorem write_katakana (text : Text) :
    Script.katakana.write text = Kana.toKatakana text := rfl

theorem write_inj (script : Script) {first second : Text} (plain : Kana.noKatakana first = true)
    (other : Kana.noKatakana second = true) : script.write first = script.write second ↔
      first = second := by
  cases script with
  | hiragana => rfl
  | katakana => exact Kana.toKatakana_inj plain other

@[simp] theorem write_append (script : Script) (first second : Text) :
    script.write (first ++ second) = script.write first ++ script.write second := by
  cases script <;> simp

@[simp] theorem write_eq_nil {script : Script} {text : Text} :
    script.write text = [] ↔ text = [] := by
  cases script <;> simp

theorem map_write_ofText (script : Script) (text : Text) :
    (Path.ofText text).map script.write = Path.ofText (script.write text) := by
  cases script with
  | hiragana => exact List.map_id _
  | katakana => exact Kana.map_toKatakana_ofText text

@[simp] theorem map_write_hiragana (path : Path) : path.map Script.hiragana.write = path :=
  List.map_id path

theorem map_write_inj (script : Script) {first second : Path}
    (plain : ∀ symbol ∈ first, Kana.noKatakana symbol = true)
    (other : ∀ symbol ∈ second, Kana.noKatakana symbol = true) :
    first.map script.write = second.map script.write ↔ first = second := by
  cases script with
  | hiragana => simp
  | katakana => exact Kana.map_toKatakana_inj plain other

end Script
end Honji
