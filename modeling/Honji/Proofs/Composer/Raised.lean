import Honji.Proofs.Composer.Lockstep
import Honji.Proofs.Text.CaseForms
import Honji.Proofs.Trie.Pointwise

/-!
The tries of the two scripts token by token. Where a path consists of ASCII, the token in katakana
is the token in hiragana with its letters made capital and its kana shifted: rules write the same
kana in both scripts, and letters that wait are repeated as they are typed, in capitals for
katakana. Only the long vowels differ, and no ASCII letter is one.
-/

namespace Honji
open Build

/-! ### Tokens raised to capitals and katakana -/

namespace Text

def isAscii (text : Text) : Bool :=
  text.all (·.toNat < 0x80)

def isWestern (text : Text) : Bool :=
  text.all (!isEastern ·)

def isCaseless (text : Text) : Bool :=
  text.all fun character => capitalForm character == [character]

theorem isCaseless_of_isEastern {text : Text} (eastern : text.all isEastern = true) :
    isCaseless text = true := by
  simp only [isCaseless, List.all_eq_true, beq_iff_eq] at eastern ⊢
  exact fun character member => capitalForm_of_isEastern (eastern character member)

theorem upper_of_isCaseless {text : Text} (caseless : isCaseless text = true) :
    upper text = text := by
  induction text with
  | nil => rfl
  | cons character rest ih =>
      simp only [isCaseless, List.all_cons, Bool.and_eq_true, beq_iff_eq] at caseless
      rw [upper, List.flatMap_cons, caseless.1]
      exact congrArg (character :: ·) (ih caseless.2)

theorem capitalForm_ne_nil (character : Char) : capitalForm character ≠ [] := by
  have filled : ∀ entry ∈ CaseTable.longCapital, entry.2 ≠ [] := by decide +kernel
  unfold capitalForm
  split
  · next codes found =>
    obtain ⟨before, after, whole, -⟩ := List.lookup_eq_some_iff.1 found
    simpa [ofCodes] using filled _ (whole ▸ List.mem_append_right _ (List.mem_cons_self ..))
  · simp

theorem upper_eq_nil {text : Text} : upper text = [] ↔ text = [] := by
  cases text with
  | nil => simp
  | cons character rest => simp [upper, capitalForm_ne_nil]

theorem isAscii_upper {text : Text} (ascii : isAscii text = true) :
    isAscii (upper text) = true := by
  simp only [isAscii, List.all_eq_true, decide_eq_true_eq] at ascii ⊢
  intro capital member
  obtain ⟨character, inside, written⟩ := List.mem_flatMap.1 member
  have forms := twoForms_of_ascii (ascii character inside)
  rw [forms.capital, List.mem_singleton] at written
  exact written ▸ forms.capitalCode

end Text

namespace Kana

def raise (text : Text) : Text :=
  toKatakana text.upper

@[simp] theorem raise_append (first second : Text) :
    raise (first ++ second) = raise first ++ raise second := by
  simp [raise]

theorem raise_eq_nil {text : Text} : raise text = [] ↔ text = [] := by
  rw [raise, toKatakana_eq_nil, Text.upper_eq_nil]

theorem toKatakana_of_isAscii {text : Text} (ascii : Text.isAscii text = true) :
    toKatakana text = text := by
  refine toKatakana_of_noHiragana ?_
  simp only [Text.isAscii, noHiragana, List.all_eq_true, decide_eq_true_eq] at ascii ⊢
  intro character member
  have code := ascii character member
  rw [Bool.not_eq_true', ← Bool.not_eq_true, isHiraganaLetter_iff]
  omega

end Kana

/--
What stands at a path in hiragana and in katakana. The path has no kana and no kanji. If it is of
ASCII the token in katakana is the raised one, and if no case can be told there, the token in
hiragana has none to tell either.
-/
structure RaisedAt (path : Path) (entry other : Entry Text) : Prop where
  terminal : other.terminal = entry.terminal
  western : ∀ symbol ∈ path, Text.isWestern symbol = true
  token : (∀ symbol ∈ path, Text.isAscii symbol = true) → other.token = Kana.raise entry.token
  settled : (∀ symbol ∈ path, Text.isAscii symbol = true ∧ Text.upper symbol = symbol) →
    Text.upper entry.token = entry.token

namespace RaisedAt
variable {path : Path}

theorem kana (western : ∀ symbol ∈ path, Text.isWestern symbol = true) {text : Text}
    (caseless : Text.isCaseless text = true) (terminal : Choice) :
    RaisedAt path ⟨Script.hiragana.write text, terminal⟩ ⟨Script.katakana.write text, terminal⟩ where
  terminal := rfl
  western := western
  token := fun _ => by simp [Kana.raise, Text.upper_of_isCaseless caseless]
  settled := fun _ => Text.upper_of_isCaseless caseless

theorem marked (western : ∀ symbol ∈ path, Text.isWestern symbol = true) {mark : Symbol}
    (foreign : Text.isWestern mark = true) (longVowel : Text.isAscii mark = false)
    (token other : Text) (terminal : Choice) :
    RaisedAt (path ++ [mark]) ⟨token, terminal⟩ ⟨other, terminal⟩ where
  terminal := rfl
  western := by simpa [or_imp, forall_and, foreign] using western
  token := fun ascii => absurd (ascii mark (by simp)) (by simp [longVowel])
  settled := fun ascii => absurd (ascii mark (by simp)).1 (by simp [longVowel])

variable {entry other : Entry Text}

theorem waits_eq (raised : RaisedAt path entry other)
    (ascii : ∀ symbol ∈ path, Text.isAscii symbol = true) :
    ComposerRules.waits other = ComposerRules.waits entry := by
  rw [ComposerRules.waits, ComposerRules.waits, raised.terminal, raised.token ascii,
    Bool.eq_iff_iff]
  simp [Kana.raise_eq_nil]

theorem echo (raised : RaisedAt path entry other) :
    RaisedAt path
      ⟨if ComposerRules.waits entry then ComposerRules.echo .hiragana path.joined
        else entry.token, entry.terminal⟩
      ⟨if ComposerRules.waits other then ComposerRules.echo .katakana path.joined
        else other.token, other.terminal⟩ where
  terminal := raised.terminal
  western := raised.western
  token := fun ascii => by
    have joined : Text.isAscii path.joined = true := by
      simp only [Text.isAscii, List.all_eq_true] at ascii ⊢
      intro character member
      obtain ⟨symbol, inside, letter⟩ := List.mem_flatten.1 member
      exact ascii symbol inside character letter
    simp only [raised.waits_eq ascii, ComposerRules.echo]
    split
    · rw [Kana.raise, Kana.toKatakana_of_isAscii (Text.isAscii_upper joined)]
    · exact raised.token ascii
  settled := fun caseless => by
    split
    · have upper (path : Path) (caseless : ∀ symbol ∈ path, Text.upper symbol = symbol) :
          Text.upper path.joined = path.joined := by
        induction path with
        | nil => rfl
        | cons symbol path ih =>
            obtain ⟨here, rest⟩ := List.forall_mem_cons.1 caseless
            have same := ih rest
            simp only [Path.joined, List.flatten_cons, Text.upper_append] at same ⊢
            rw [here, same]
      exact upper path fun symbol member => (caseless symbol member).2
    · exact raised.settled caseless

theorem doubled {parent : Symbol} (raised : RaisedAt path entry other)
    (western : Text.isWestern parent = true) {sokuon : Text}
    (caseless : Text.isCaseless sokuon = true) :
    RaisedAt (parent :: path) ⟨Script.hiragana.write sokuon ++ entry.token, entry.terminal⟩
      ⟨Script.katakana.write sokuon ++ other.token, other.terminal⟩ where
  terminal := raised.terminal
  western := List.forall_mem_cons.2 ⟨western, raised.western⟩
  token := fun ascii => by
    have rest := raised.token (List.forall_mem_cons.1 ascii).2
    simp [rest, Kana.raise, Text.upper_of_isCaseless caseless]
  settled := fun plain => by
    have rest := raised.settled (List.forall_mem_cons.1 plain).2
    simp [rest, Text.upper_of_isCaseless caseless]

end RaisedAt

end Honji
