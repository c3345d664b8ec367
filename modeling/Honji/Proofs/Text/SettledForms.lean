import Honji.Proofs.Text.CaseForms

/-!
The small form of a character is small already, and its capital form is capital already. The runs of
characters that have a form of their own are moved, and where a moved run meets another one, it
leaves out what that one has.
-/

namespace Honji
namespace Text
open CaseTable

theorem mem_of_findSpan {α : Type} {spanOf : α → CodeSpan} {code : Nat} {entries : List α}
    {entry : α} (found : findSpan spanOf code entries = some entry) :
    entry ∈ entries ∧ (spanOf entry).contains code = true := by
  induction entries with
  | nil => cases found
  | cons first entries ih =>
      rw [findSpan] at found
      split at found
      · cases found
      · split at found
        · next inside =>
          obtain rfl := Option.some.inj found
          exact ⟨List.mem_cons_self, inside⟩
        · exact ⟨List.mem_cons_of_mem _ (ih found).1, (ih found).2⟩

def CodeShift.moved (shift : CodeShift) : CodeSpan :=
  ⟨(shift.span.first + shift.distance).toNat, (shift.span.last + shift.distance).toNat,
    shift.span.step⟩

def CodeSpan.isApart (span other : CodeSpan) : Bool :=
  -- compared as the kernel computes, since most pairs of runs are gone through
  Nat.blt other.last span.first || Nat.blt span.last other.first ||
    (other.step == 2 && (span.step == 2 || span.first == span.last) &&
      (span.first + other.first) % 2 == 1)

def CodeSpan.isMissed {α : Type} (spanOf : α → CodeSpan) (span : CodeSpan) : List α → Bool
  | [] => true
  | entry :: rest =>
      Nat.blt span.last (spanOf entry).first ||
        (span.isApart (spanOf entry) && span.isMissed spanOf rest)

theorem CodeSpan.contains_iff {span : CodeSpan} {code : Nat} : span.contains code = true ↔
    span.first ≤ code ∧ code ≤ span.last ∧ (code - span.first) % span.step = 0 := by
  simp [contains, and_assoc]

theorem CodeSpan.not_contains_of_isApart {span other : CodeSpan} {code : Nat}
    (apart : span.isApart other = true) (inside : span.contains code = true) :
    other.contains code = false := by
  simp only [isApart, Bool.or_eq_true, Bool.and_eq_true, Nat.blt_eq, beq_iff_eq] at apart
  obtain ⟨after, before, steps⟩ := contains_iff.1 inside
  rw [← Bool.not_eq_true, contains_iff]
  rintro ⟨otherAfter, otherBefore, otherSteps⟩
  rcases apart with (behind | ahead) | ⟨⟨double, also⟩, odd⟩
  · omega
  · omega
  · rw [double] at otherSteps
    rcases also with alsoDouble | single
    · rw [alsoDouble] at steps
      omega
    · omega

theorem CodeSpan.findSpan_of_isMissed {α : Type} {spanOf : α → CodeSpan} {span : CodeSpan}
    {code : Nat} {entries : List α} (missed : span.isMissed spanOf entries = true)
    (inside : span.contains code = true) : findSpan spanOf code entries = none := by
  induction entries with
  | nil => rfl
  | cons entry rest ih =>
      rw [isMissed, Bool.or_eq_true, Bool.and_eq_true, Nat.blt_eq] at missed
      rw [findSpan]
      split
      · rfl
      · next reached =>
        have before := (contains_iff.1 inside).2.1
        obtain ⟨apart, further⟩ := missed.resolve_left (by omega)
        rw [not_contains_of_isApart apart inside]
        exact ih further

section
variable {shifts : List CodeShift} {long : List (Nat × List Nat)}

@[mk_iff]
structure CodeShift.Settles (shifts : List CodeShift) (long : List (Nat × List Nat))
    (shift : CodeShift) : Prop where
  above : 0 ≤ shift.span.first + shift.distance
  valid : shift.moved.last < 0xD800 ∨ 0xDFFF < shift.moved.first ∧ shift.moved.last < 0x110000
  western : shift.moved.last < 0x3041 ∨ 0x9FAF < shift.moved.first
  notLong : long.all (fun entry =>
    Nat.blt shift.moved.last entry.1 || Nat.blt entry.1 shift.moved.first) = true
  missed : shift.moved.isMissed CodeShift.span shifts = true

instance (shift : CodeShift) : Decidable (shift.Settles shifts long) :=
  decidable_of_iff' _ (CodeShift.settles_iff shifts long shift)

namespace CodeShift.Settles
variable {shift : CodeShift} (settles : shift.Settles shifts long) {code : Nat}
  (inside : shift.span.contains code = true)
include settles inside

theorem contains_moved : shift.moved.contains (code + shift.distance).toNat = true := by
  have above := settles.above
  obtain ⟨after, before, steps⟩ := CodeSpan.contains_iff.1 inside
  have same : (code + shift.distance).toNat - (shift.span.first + shift.distance).toNat =
      code - shift.span.first := by omega
  refine CodeSpan.contains_iff.2 ⟨?_, ?_, (congrArg (· % shift.span.step) same).trans steps⟩
  · exact Int.toNat_le_toNat (by omega)
  · exact Int.toNat_le_toNat (by omega)

theorem toNat_ofNat :
    (Char.ofNat (code + shift.distance).toNat).toNat = (code + shift.distance).toNat := by
  obtain ⟨after, before, -⟩ := CodeSpan.contains_iff.1 (settles.contains_moved inside)
  have isValid : (code + shift.distance).toNat.isValidChar := by
    rcases settles.valid with low | high
    · exact .inl (by omega)
    · exact .inr (by omega)
  rw [Char.ofNat, dif_pos isValid]
  rfl

theorem findSpan_eq_none :
    findSpan CodeShift.span (code + shift.distance).toNat shifts = none :=
  CodeSpan.findSpan_of_isMissed settles.missed (settles.contains_moved inside)

theorem lookup_eq_none : long.lookup (code + shift.distance).toNat = none := by
  refine List.lookup_eq_none_iff.2 fun entry listed => ?_
  have outside := List.all_eq_true.1 settles.notLong entry listed
  rw [Bool.or_eq_true, Nat.blt_eq, Nat.blt_eq] at outside
  obtain ⟨after, before, -⟩ := CodeSpan.contains_iff.1 (settles.contains_moved inside)
  rw [bne_iff_ne]
  omega

end CodeShift.Settles

/--
Forms of characters that runs and entries give. Every character of a form is its own form, and only
kana and kanji have forms with kana and kanji.
-/
structure SettledForm (shifts : List CodeShift) (long : List (Nat × List Nat))
    (form : Char → Text) : Prop where
  listed : ∀ character codes, long.lookup character.toNat = some codes →
    form character = ofCodes codes
  moved : ∀ character, long.lookup character.toNat = none →
    form character = [shiftBy shifts character]
  shifts : ∀ shift ∈ shifts, shift.Settles shifts long
  long : long.all (fun entry => (ofCodes entry.2).all fun character =>
    form character == [character] && !isEastern character) = true

namespace SettledForm
variable {form : Char → Text} (settled : SettledForm shifts long form)
include settled

theorem eq_singleton {character letter : Char} (member : letter ∈ form character) :
    form letter = [letter] := by
  cases known : long.lookup character.toNat with
  | some codes =>
      rw [settled.listed character codes known] at member
      obtain ⟨before, after, split, -⟩ := List.lookup_eq_some_iff.1 known
      have every := List.all_eq_true.1 settled.long (character.toNat, codes) (by simp [split])
      have own := List.all_eq_true.1 every letter member
      rw [Bool.and_eq_true] at own
      exact eq_of_beq own.1
  | none =>
      rw [settled.moved character known, List.mem_singleton] at member
      subst member
      cases found : findSpan CodeShift.span character.toNat shifts with
      | none =>
          have still : shiftBy shifts character = character := by rw [shiftBy, found]
          rw [still, settled.moved character known, still]
      | some shift =>
          obtain ⟨listed, inside⟩ := mem_of_findSpan found
          have settles := settled.shifts shift listed
          have moved : shiftBy shifts character =
              Char.ofNat (character.toNat + shift.distance).toNat := by rw [shiftBy, found]
          have code := settles.toNat_ofNat inside
          rw [moved, settled.moved _ (by rw [code]; exact settles.lookup_eq_none inside), shiftBy,
            code, settles.findSpan_eq_none inside]

theorem flatMap_eq {text : Text} (formed : ∀ letter ∈ text, ∃ character, letter ∈ form character) :
    text.flatMap form = text := by
  induction text with
  | nil => rfl
  | cons letter text ih =>
      obtain ⟨⟨character, member⟩, rest⟩ := List.forall_mem_cons.1 formed
      rw [List.flatMap_cons, settled.eq_singleton member, ih rest]
      rfl

theorem eq_of_isEastern {character letter : Char} (member : letter ∈ form character)
    (eastern : isEastern letter = true) : letter = character := by
  cases known : long.lookup character.toNat with
  | some codes =>
      rw [settled.listed character codes known] at member
      obtain ⟨before, after, split, -⟩ := List.lookup_eq_some_iff.1 known
      have every := List.all_eq_true.1 settled.long (character.toNat, codes) (by simp [split])
      have western := List.all_eq_true.1 every letter member
      simp [eastern] at western
  | none =>
      rw [settled.moved character known, List.mem_singleton] at member
      subst member
      rw [shiftBy] at eastern ⊢
      split at eastern
      · next shift found =>
        obtain ⟨listed, inside⟩ := mem_of_findSpan found
        have settles := settled.shifts shift listed
        obtain ⟨after, before, -⟩ := CodeSpan.contains_iff.1 (settles.contains_moved inside)
        rw [isEastern_iff, settles.toNat_ofNat inside] at eastern
        rcases settles.western with low | high
        · omega
        · omega
      · rfl

end SettledForm
end

/-! ### The tables of capital and small letters -/

/-- The forms that the tables of capital and small letters give are settled. -/
theorem settledForms : SettledForm toCapital longCapital capitalForm ∧
    SettledForm toSmall longSmall smallForm ∧ smallForm 'Σ' = ['σ'] ∧ smallForm 'ς' = ['ς'] := by
  refine ⟨?capital, ?small, ?sigmas⟩
  case capital =>
    exact {
      listed := fun character codes known => by rw [capitalForm, known]
      moved := fun character unlisted => by rw [capitalForm, unlisted]
      shifts := by decide +kernel
      long := by decide +kernel }
  case small =>
    exact {
      listed := fun character codes known => by rw [smallForm, known]
      moved := fun character unlisted => by rw [smallForm, unlisted]
      shifts := by decide +kernel
      long := by decide +kernel }
  case sigmas => decide +kernel

theorem settledForm_capitalForm : SettledForm toCapital longCapital capitalForm :=
  settledForms.1

theorem settledForm_smallForm : SettledForm toSmall longSmall smallForm :=
  settledForms.2.1

theorem smallForm_sigmas : smallForm 'Σ' = ['σ'] ∧ smallForm 'ς' = ['ς'] :=
  settledForms.2.2

/-! ### Capital letters -/

theorem upper_upper (text : Text) : upper (upper text) = upper text := by
  refine settledForm_capitalForm.flatMap_eq fun letter member => ?_
  obtain ⟨character, -, formed⟩ := List.mem_flatMap.1 member
  exact ⟨character, formed⟩

/-! ### Small letters -/

theorem exists_of_mem_lowerAfter {before text : Text} {letter : Char}
    (member : letter ∈ lowerAfter before text) :
    ∃ character, letter ∈ smallForm character ∧ (character ∈ text ∨ character = 'ς') := by
  induction text generalizing before with
  | nil => cases member
  | cons character text ih =>
      rw [lowerAfter, List.mem_append] at member
      rcases member with here | later
      · split at here
        · next sigma =>
          split at here
          · exact ⟨'ς', smallForm_sigmas.2 ▸ here, .inr rfl⟩
          · exact ⟨'Σ', smallForm_sigmas.1 ▸ here, .inl (by simp [sigma])⟩
        · exact ⟨character, here, .inl List.mem_cons_self⟩
      · obtain ⟨other, formed, inside⟩ := ih later
        exact ⟨other, formed, inside.imp_left (List.mem_cons_of_mem _)⟩

theorem sigma_notMem_lower (text : Text) : 'Σ' ∉ lower text := by
  intro member
  obtain ⟨character, formed, -⟩ := exists_of_mem_lowerAfter member
  have still := settledForm_smallForm.eq_singleton formed
  rw [smallForm_sigmas.1] at still
  simp at still

theorem lower_lower (text : Text) : lower (lower text) = lower text := by
  rw [lower, lowerAfter_eq [] (sigma_notMem_lower text)]
  refine settledForm_smallForm.flatMap_eq fun letter member => ?_
  obtain ⟨character, formed, -⟩ := exists_of_mem_lowerAfter member
  exact ⟨character, formed⟩

theorem lower_of_mem_lower {text : Text} {letter : Char} (member : letter ∈ lower text) :
    lower [letter] = [letter] := by
  obtain ⟨character, formed, -⟩ := exists_of_mem_lowerAfter member
  have notSigma : letter ≠ 'Σ' := fun sigma => sigma_notMem_lower text (sigma ▸ member)
  rw [lower_singleton, if_neg notSigma, settledForm_smallForm.eq_singleton formed]

theorem mem_of_mem_lower {text : Text} {letter : Char} (member : letter ∈ lower text)
    (eastern : isEastern letter = true) : letter ∈ text := by
  obtain ⟨character, formed, inside⟩ := exists_of_mem_lowerAfter member
  obtain rfl := settledForm_smallForm.eq_of_isEastern formed eastern
  refine inside.resolve_right ?_
  rintro rfl
  exact absurd eastern (by decide)

end Text
end Honji
