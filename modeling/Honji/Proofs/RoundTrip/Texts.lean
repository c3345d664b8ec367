import Honji.Proofs.Composer.Converter
import Honji.Proofs.RoundTrip.Settled

/-!
Texts that are put together from units come back. The unit at the front is looked at together with
the one behind it, so a text is settled together with what is behind its first unit.
-/

namespace Honji
open RomanizationRules Composer

section
variable {method : Method} {units : List Text}
  (retypable : ∀ unit ∈ units, Retypable method unit)
include retypable

theorem noKatakana_flatten : Kana.noKatakana units.flatten = true := by
  rw [Kana.noKatakana, List.all_flatten, List.all_eq_true]
  exact fun unit member => (retypable unit member).noKatakana

theorem exists_first {character : Char} (front : character ∈ units.flatten.head?) :
    ∃ rest others, units = (character :: rest) :: others ∧ [character] ∉ glides ∧
      ([character] ∈ (ofMethod method).nasalFollowers.keys ∨ character = Kana.prolongedSound →
        rest = []) := by
  cases units with
  | nil => simp at front
  | cons unit others =>
      obtain ⟨letter, rest, rfl, large, alone⟩ := (retypable unit (by simp)).begins
      obtain rfl : letter = character := by simpa using front
      exact ⟨rest, others, rfl, large, alone⟩

theorem glideless_flatten : ∀ character ∈ units.flatten.head?, [character] ∉ glides := by
  intro character front
  obtain ⟨rest, others, -, large, -⟩ := exists_first retypable front
  exact large

end

namespace Retyping
variable {method : Method} {trie hiragana katakana : Trie Text} {units : List Text}
  (retyping : Retyping (ofMethod method) method.lostKana trie hiragana katakana) (script : Script)
  (retypable : ∀ unit ∈ units, Retypable method unit)
  (settled : Settled (ofMethod method) trie hiragana katakana script units.flatten)
  (behind : Settled (ofMethod method) trie hiragana katakana script units.tail.flatten)
include retyping retypable settled behind

theorem settle_nasal_unit :
    Settled (ofMethod method) trie hiragana katakana script (nasal ++ units.flatten) := by
  cases follows : (ofMethod method).follows (Path.ofText units.flatten) with
  | false =>
      exact retyping.settle_nasal script (noKatakana_flatten retypable)
        (glideless_flatten retypable) follows settled
  | true =>
      -- the rule of the nasal takes the kana behind it along
      obtain ⟨kana, first, follower⟩ := (Option.any_eq_true _ _).1 follows
      obtain ⟨character, front, rfl⟩ : ∃ character ∈ units.flatten.head?, [character] = kana := by
        rw [Path.ofText, List.head?_map] at first
        exact Option.map_eq_some_iff.1 first
      replace follower := List.contains_iff_mem.1 follower
      obtain ⟨rest, later, rfl, -, alone⟩ := exists_first retypable front
      obtain rfl := alone (.inl follower)
      obtain ⟨entry, listed, same⟩ := List.mem_map.1 follower
      have others : ∀ unit ∈ later, Retypable method unit :=
        fun unit member => retypable unit (List.mem_cons_of_mem _ member)
      rw [List.flatten_cons, ← List.append_assoc, ← same]
      exact retyping.settle_follower script listed (noKatakana_flatten others)
        (glideless_flatten others) behind

theorem settle_spelled_unit {text token : Text}
    (spells : (ofMethod method).Spells method.lostKana text token)
    (long : script = .katakana → prolongedSound ∈ units →
      KeepsLong (ofMethod method) method.lostKana katakana) :
    Settled (ofMethod method) trie hiragana katakana script (text ++ units.flatten) := by
  by_cases prolonged : script = .katakana ∧ Kana.prolongedSound ∈ units.flatten.head? ∧
      prolongs (Path.ofText text, token) = true
  · obtain ⟨rfl, front, lasts⟩ := prolonged
    obtain ⟨rest, later, rfl, -, alone⟩ := exists_first retypable front
    obtain rfl := alone (.inr rfl)
    have others : ∀ unit ∈ later, Retypable method unit :=
      fun unit member => retypable unit (List.mem_cons_of_mem _ member)
    have keeps := long rfl (List.mem_cons_self ..)
    rw [List.flatten_cons, ← List.append_assoc]
    exact retyping.settle_long spells lasts (noKatakana_flatten others)
      (glideless_flatten others) behind keeps
  · refine retyping.settle_mora script spells settled (retyping.romanize_mora script spells
      (noKatakana_flatten retypable) (glideless_flatten retypable) ?_)
    intro inKatakana front
    rw [← Bool.not_eq_true]
    exact fun lasts => prolonged ⟨inKatakana, front, lasts⟩

omit settled behind

/-- A text is settled, and so is what is behind its first unit. -/
theorem settle_units (long : script = .katakana → prolongedSound ∈ units →
      KeepsLong (ofMethod method) method.lostKana katakana) :
    Settled (ofMethod method) trie hiragana katakana script units.flatten ∧
      Settled (ofMethod method) trie hiragana katakana script units.tail.flatten := by
  induction units with
  | nil => exact ⟨settled_nil script, settled_nil script⟩
  | cons unit units ih =>
      have others : ∀ unit ∈ units, Retypable method unit :=
        fun unit member => retypable unit (List.mem_cons_of_mem _ member)
      have longLater : script = .katakana → prolongedSound ∈ units →
          KeepsLong (ofMethod method) method.lostKana katakana :=
        fun inKatakana member => long inKatakana (List.mem_cons_of_mem _ member)
      obtain ⟨settled, behind⟩ := ih others longLater
      refine ⟨?_, settled⟩
      rw [List.flatten_cons]
      cases retypable unit (by simp) with
      | mark known visible =>
          rw [ofMethod_punctuation] at known
          obtain ⟨entry, listed, rfl⟩ := List.mem_map.1 known
          exact retyping.settle_mark script listed visible settled
      | mora mora kept =>
          rcases mora.spells retyping.wellFormed retyping.typable kept with rfl | ⟨token, spells⟩
          · exact retyping.settle_nasal_unit script others settled behind
          · exact retyping.settle_spelled_unit script others settled behind spells longLater

end Retyping

theorem Composer.Supports.keepsLong {hiragana katakana : Trie Text}
    (supports : Supports hiragana katakana) {method : Method}
    (keeps : method = .wapuro ∨ method = .modifiedHepburn) :
    Retyping.KeepsLong (ofMethod method) method.lostKana katakana := by
  rcases keeps with rfl | rfl
  · exact .inl rfl
  · exact .inr ⟨rfl, supports.2.2⟩

namespace Transliteration
open Registry

theorem retype_units (history later : List Request) {named : Datum} {method : Method}
    (known : Method.parse named = .ok method) {units : List Text}
    (retypable : ∀ unit ∈ units, Retypable method unit) (script : Script) {choice : Choice}
    (chosen : choice.taken = true ↔ script = .katakana)
    (long : script = .katakana → prolongedSound ∈ units →
      method = .wapuro ∨ method = .modifiedHepburn) :
    ∃ romaji,
      (Steps.run (toRomaji (script.write units.flatten) named choice none) (after history)).1 =
        .ok romaji ∧
      (Steps.run (toKana romaji false none) (after later)).1 =
        .ok (script.write units.flatten) := by
  obtain ⟨romanizer, made, capitalizes, caseSensitive, holds⟩ := Romanizer.plain_holds method
  obtain ⟨hiragana, katakana, first, second, supports⟩ := exists_supports
  obtain ⟨composer, composes, converts⟩ := Composer.exists_plain first second
  have retyping : Retyping (ofMethod method) method.lostKana romanizer.active hiragana katakana :=
    { wellFormed := ofMethod_wellFormed method
      caseSensitive := caseSensitive
      holds := holds
      alike := ComposerRules.alike_scriptTrie first second
      keyboard := supports.1
      typable := supports.typable method
      marks := ofMethod_punctuation method }
  have settled := (retyping.settle_units script retypable fun inKatakana member =>
    supports.keepsLong (long inKatakana member)).1
  refine ⟨Romanizer.romanize romanizer.active script (script.write units.flatten), ?_, ?_⟩
  · have written : (if romanizer.capitalizes choice then Romanizer.capitalized else Match.token) =
        Romanizer.writes script := by
      rw [capitalizes]
      cases script <;> simp_all [Romanizer.writes]
    rw [run_toRomaji, romajiOf, known]
    simp only [bind, Except.bind, made, Romanizer.outcome_convert, written]
    rfl
  · rw [run_toKana, kanaOf, composes]
    simp only [bind, Except.bind, converts, settled.back]

/--
Every text of morae and marks comes back from Latin letters, by every method and after every
history of requests. So does its katakana, set in capitals, if no sign of a long vowel is in it or
the method has a way of its own to write long vowels.
-/
theorem toKana_toRomaji (history later : List Request) {named : Datum} {method : Method}
    (known : Method.parse named = .ok method) {units : List Text}
    (retypable : ∀ unit ∈ units, Retypable method unit) {small capital : Choice}
    (inSmall : small.taken = false) (inCapitals : capital.taken = true) :
    (∃ romaji,
      (Steps.run (toRomaji units.flatten named small none) (after history)).1 = .ok romaji ∧
      (Steps.run (toKana romaji false none) (after later)).1 = .ok units.flatten) ∧
    (Kana.prolongedSound ∉ units.flatten ∨ method = .wapuro ∨ method = .modifiedHepburn →
      ∃ romaji,
        (Steps.run (toRomaji (Kana.toKatakana units.flatten) named capital none)
          (after history)).1 = .ok romaji ∧
        (Steps.run (toKana romaji false none) (after later)).1 =
          .ok (Kana.toKatakana units.flatten)) := by
  constructor
  · exact retype_units history later known retypable .hiragana (by simp [inSmall]) (by simp)
  · intro keeps
    refine retype_units history later known retypable .katakana (by simp [inCapitals])
      fun _ member => keeps.resolve_left fun absent => absent ?_
    exact List.mem_flatten.2 ⟨prolongedSound, member, List.mem_singleton_self _⟩

theorem toKana_toRomaji_modifiedHepburn :
    (∃ romaji,
      (Steps.run (toRomaji "かーんいっちゃ・".toList (.text "modified_hepburn".toList) none none)
        (after [])).1 = .ok romaji ∧
      (Steps.run (toKana romaji false none) (after [.toKana "sa".toList false none])).1 =
        .ok "かーんいっちゃ・".toList) ∧
    ∃ romaji,
      (Steps.run (toRomaji (Kana.toKatakana "かーんいっちゃ・".toList)
        (.text "modified_hepburn".toList) (some true) none) (after [])).1 = .ok romaji ∧
      (Steps.run (toKana romaji false none) (after [.toKana "sa".toList false none])).1 =
        .ok (Kana.toKatakana "かーんいっちゃ・".toList) := by
  have retypable : ∀ unit ∈ [['か'], ['ー'], ['ん'], ['い'], ['っ', 'ち', 'ゃ'], ['・']],
      Retypable .modifiedHepburn unit := by
    have kana {text : Text} (known : text ∈ (ofMethod .modifiedHepburn).syllabary.keys)
        (large : text ∉ smallKana)
        (kept : ∀ letter ∈ text, letter ∉ Method.lostKana .modifiedHepburn) :
        Retypable .modifiedHepburn text :=
      .mora (.plain (.single known large)) kept
    have cha : (ofMethod .modifiedHepburn).Mora ['っ', 'ち', 'ゃ'] :=
      .doubled (.contracted (show ['ち'] ∈ _ by decide) (show ['ゃ'] ∈ _ by decide))
        (by decide) (by decide)
    simp only [List.forall_mem_cons, List.not_mem_nil, IsEmpty.forall_iff, implies_true, and_true]
    refine ⟨kana ?_ ?_ (by simp [Method.lostKana]), .mark ?_ ?_,
      kana ?_ ?_ (by simp [Method.lostKana]), kana ?_ ?_ (by simp [Method.lostKana]),
      .mora cha (by simp [Method.lostKana]), .mark ?_ ?_⟩ <;> decide +kernel
  obtain ⟨small, capital⟩ := toKana_toRomaji [] [.toKana "sa".toList false none]
    (show Method.parse (.text "modified_hepburn".toList) = .ok .modifiedHepburn by rfl) retypable
    (show Choice.taken none = false by rfl) (show Choice.taken (some true) = true by rfl)
  exact ⟨small, capital (.inr (.inr rfl))⟩

end Transliteration
end Honji
