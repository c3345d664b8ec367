import Honji.Proofs.Composer.Lockstep
import Honji.Proofs.Text.Letters
import Honji.Proofs.Trie.Piecewise

/-!
What is typed word by word. A word whose letters lead to the end of a branch is composed on its own,
in hiragana if it is typed in small letters, and in katakana if it is typed in capitals.
-/

namespace Honji

def Trie.endsOn (trie : Trie Text) (text token : Text) : Bool :=
  match trie.reach? trie.root text with
  | some node => node.entry.token == token && node.keys.isEmpty
  | none => false

theorem Trie.endsOn_iff {trie : Trie Text} {text token : Text} :
    trie.endsOn text token = true ↔ ∃ node, trie.reach? trie.root text = some node ∧
      node.entry.token = token ∧ node.keys = [] := by
  unfold endsOn
  cases trie.reach? trie.root text <;> simp

theorem Trie.halts_of_keys {trie : Trie Text} {node : Node Text} (leaf : node.keys = [])
    (text : Text) : trie.Halts node text := by
  intro character _
  rw [step?, Node.child?_eq_none_iff, leaf]
  exact List.not_mem_nil

namespace Composer
variable {hiragana katakana : Trie Text}

def compose (hiragana katakana : Trie Text) (text : Text) : Text :=
  (tokenize hiragana katakana text).flatMap Match.token

def trieOf (hiragana katakana : Trie Text) : Script → Trie Text
  | .hiragana => hiragana
  | .katakana => katakana

def scriptOf (typed : Text) : Script :=
  if typed.isUpper then .katakana else .hiragana

theorem cuts_headMatch (hiragana katakana : Trie Text) :
    Match.Cuts (headMatch hiragana katakana) := by
  intro start character rest
  unfold headMatch
  dsimp only
  split
  · exact katakana.cuts_headMatch start character rest
  · exact hiragana.cuts_headMatch start character rest

theorem unplaced_headMatch (hiragana katakana : Trie Text) :
    Match.Unplaced (headMatch hiragana katakana) Match.token := by
  intro start other character rest
  have first := hiragana.unplaced_headMatch Match.token (fun _ _ => rfl) start other
    character rest
  have second := katakana.unplaced_headMatch Match.token (fun _ _ => rfl) start other
    character rest
  simp only [headMatch, first.1]
  split
  · exact second
  · exact first

theorem compose_append (alike : hiragana.Alike katakana) {typed later : Text} {node : Node Text}
    (filled : typed ≠ [])
    (reached : (trieOf hiragana katakana (scriptOf typed)).reach?
      (trieOf hiragana katakana (scriptOf typed)).root typed = some node)
    (halts : (trieOf hiragana katakana (scriptOf typed)).Halts node later) :
    compose hiragana katakana (typed ++ later) =
      node.entry.token ++ compose hiragana katakana later := by
  obtain ⟨character, rest, rfl⟩ := List.exists_cons_of_ne_nil filled
  have piece : (trieOf hiragana katakana (scriptOf (character :: rest))).headMatch 0 character
      (rest ++ later) = _ :=
    Trie.headMatch_eq reached halts
  have first : headMatch hiragana katakana 0 character (rest ++ later) =
      ⟨node.entry.token, 0, character :: rest, Trie.kindAt node⟩ := by
    have span := congrArg (·.2.1) (alike.span_headMatch 0 character (rest ++ later))
    simp only [Match.span] at span
    unfold headMatch
    dsimp only
    cases upper : Text.isUpper (character :: rest) with
    | false =>
        simp only [scriptOf, upper, Bool.false_eq_true, ↓reduceIte, trieOf] at piece
        rw [piece, if_neg (by simp [upper])]
    | true =>
        simp only [scriptOf, upper, ↓reduceIte, trieOf] at piece
        rw [span, piece, if_pos upper]
  have source : (headMatch hiragana katakana 0 character (rest ++ later)).source =
      character :: rest := by
    rw [first]
  have front := (unplaced_headMatch hiragana katakana).flatMap_scan_append
    (cuts_headMatch hiragana katakana) source
  rwa [first] at front

theorem scriptOf_echo (script : Script) {word : Text} (typed : Text.isWord word = true) :
    scriptOf (ComposerRules.echo script word) = script := by
  cases script with
  | hiragana => simp [ComposerRules.echo, scriptOf, Text.isUpper_of_isWord typed]
  | katakana => simp [ComposerRules.echo, scriptOf, Text.isUpper_upper typed]

theorem echo_ne_nil (script : Script) {word : Text} (typed : Text.isWord word = true) :
    ComposerRules.echo script word ≠ [] := by
  intro empty
  have nothing := scriptOf_echo script typed
  cases script with
  | hiragana => simp_all [ComposerRules.echo, Text.isWord]
  | katakana => simp [empty, scriptOf, Text.isUpper] at nothing

theorem reach?_echo {trie : Trie Text} (ignores : trie.caseInsensitive = true) (script : Script)
    {word : Text} (typed : ∀ character ∈ word, ∃ capital, Text.capitalForm character = [capital] ∧
      Text.lower [capital] = Text.lower [character]) (node : Node Text) :
    trie.reach? node (ComposerRules.echo script word) = trie.reach? node word := by
  cases script with
  | hiragana => rfl
  | katakana => exact trie.reach?_upper ignores node typed

section
variable (alike : hiragana.Alike katakana) (ignores : hiragana.caseInsensitive = true)
include alike ignores

theorem compose_word (script : Script) {word later : Text} {node : Node Text}
    (typed : Text.isWord word = true)
    (reached : (trieOf hiragana katakana script).reach? (trieOf hiragana katakana script).root
      word = some node)
    (halts : (trieOf hiragana katakana script).Halts node later) :
    compose hiragana katakana (ComposerRules.echo script word ++ later) =
      node.entry.token ++ compose hiragana katakana later := by
  have both : (trieOf hiragana katakana script).caseInsensitive = true := by
    cases script with
    | hiragana => exact ignores
    | katakana => exact alike.caseInsensitive ▸ ignores
  have capitals : ∀ character ∈ word, ∃ capital, Text.capitalForm character = [capital] ∧
      Text.lower [capital] = Text.lower [character] := by
    intro character member
    obtain ⟨capital, form, found, -⟩ := Text.capital_of_isWord typed member
    exact ⟨capital, form, found⟩
  refine compose_append alike (echo_ne_nil script typed) ?_ ?_
  · rw [scriptOf_echo script typed, reach?_echo both script capitals]
    exact reached
  · rw [scriptOf_echo script typed]
    exact halts

theorem compose_word_of_endsOn (script : Script) {word kana : Text}
    (typed : Text.isWord word = true)
    (ends : (trieOf hiragana katakana script).endsOn word kana = true) (later : Text) :
    compose hiragana katakana (ComposerRules.echo script word ++ later) =
      kana ++ compose hiragana katakana later := by
  obtain ⟨node, reached, rfl, leaf⟩ := Trie.endsOn_iff.1 ends
  exact compose_word alike ignores script typed reached (Trie.halts_of_keys leaf later)

end

theorem compose_mark (alike : hiragana.Alike katakana) {mark kana : Text} (filled : mark ≠ [])
    (small : mark.isUpper = false) (ends : hiragana.endsOn mark kana = true) (later : Text) :
    compose hiragana katakana (mark ++ later) = kana ++ compose hiragana katakana later := by
  have script : scriptOf mark = .hiragana := by simp [scriptOf, small]
  obtain ⟨node, reached, rfl, leaf⟩ := Trie.endsOn_iff.1 ends
  refine compose_append alike filled ?_ ?_
  · rw [script]
    exact reached
  · exact Trie.halts_of_keys leaf later

end Composer
end Honji
