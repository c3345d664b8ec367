import Honji.Proofs.Trie.Overlay
import Honji.Proofs.Trie.SideBySide

/-!
Tries compared at the paths that are spelled in certain symbols. Where they have related entries
there, they cut texts in these symbols into the same pieces, with related tokens; and they stay
akin when the same rules are laid over both, whatever paths these rules have.
-/

namespace Honji
variable {α : Type}

structure Entry.Akin (tokens : α → α → Prop) (one other : Entry α) : Prop where
  token : tokens one.token other.token
  taken : one.terminal.taken = other.terminal.taken

structure Match.Akin (tokens : α → α → Prop) (piece other : Match α) : Prop where
  token : tokens piece.token other.token
  span : piece.span = other.span

structure Trie.Akin (tokens : α → α → Prop) (known : Symbol → Prop) (first second : Trie α) :
    Prop where
  caseInsensitive : first.caseInsensitive = second.caseInsensitive
  entries : ∀ path, path ≠ [] → (∀ symbol ∈ path, known symbol) →
    Option.Rel (Entry.Akin tokens) (first.root.entryAt? path) (second.root.entryAt? path)

theorem Match.Akin.eq {piece other : Match α} (akin : Akin (· = ·) piece other) :
    piece = other := by
  obtain ⟨token, start, source, kind⟩ := piece
  obtain ⟨otherToken, otherStart, otherSource, otherKind⟩ := other
  obtain ⟨same, span⟩ := akin
  obtain ⟨rfl, rfl, rfl⟩ : start = otherStart ∧ source = otherSource ∧ kind = otherKind := by
    simpa [Match.span] using span
  obtain rfl : token = otherToken := same
  rfl

theorem Match.eq_of_akin {pieces others : List (Match α)}
    (akin : List.Forall₂ (Match.Akin (· = ·)) pieces others) : pieces = others := by
  induction akin with
  | nil => rfl
  | cons front _ ih => rw [front.eq, ih]

theorem Match.forall₂_scan_of_suffix {β : Type} {head : Nat → Char → Text → Match α}
    {other : Nat → Char → Text → Match β} {related : Match α → Match β → Prop} {text : Text}
    (heads : ∀ start character rest, character :: rest <:+ text →
      related (head start character rest) (other start character rest))
    (lengths : ∀ piece second, related piece second →
      piece.source.length = second.source.length) (skip position : Nat) :
    List.Forall₂ related (scan head skip position text) (scan other skip position text) := by
  induction text generalizing skip position with
  | nil => cases skip <;> exact .nil
  | cons character rest ih =>
      have later := ih fun start next behind tail =>
        heads start next behind (tail.trans (List.suffix_cons character rest))
      cases skip with
      | succ skip => exact later skip (position + 1)
      | zero =>
          have front := heads position character rest (List.suffix_refl _)
          rw [scan, scan, lengths _ _ front]
          exact .cons front (later _ _)

namespace Trie
variable {tokens : α → α → Prop} {known : Symbol → Prop} {first second : Trie α}

def LeadsAkin (tokens : α → α → Prop) (first second : Trie α) (text : Text) : Prop :=
  Option.Rel (fun one other : Node α => Entry.Akin tokens one.entry other.entry)
    (first.reach? first.root text) (second.reach? second.root text)

theorem leadsAkin_of_entries {text : Text} (related : Option.Rel (Entry.Akin tokens)
    (first.root.entryAt? ((Path.ofText text).map first.normalize))
    (second.root.entryAt? ((Path.ofText text).map second.normalize))) :
    LeadsAkin tokens first second text := by
  rw [← find?_map_entry, ← find?_map_entry, find?_ofText, find?_ofText] at related
  unfold LeadsAkin
  generalize first.reach? first.root text = one at related
  generalize second.reach? second.root text = other at related
  cases one <;> cases other <;> cases related
  · exact .none
  · next both => exact .some both

section
variable [Token α] (refl : ∀ token, tokens token token)
include refl

theorem akin_headMatch (start : Nat) {character : Char} {rest : Text}
    (leads : ∀ part, part ≠ [] → part <+: character :: rest →
      LeadsAkin tokens first second part) :
    Match.Akin tokens (first.headMatch start character rest)
      (second.headMatch start character rest) := by
  cases led : first.step? first.root [character] with
  | none =>
      have both := leads [character] (by simp) ⟨rest, rfl⟩
      simp only [LeadsAkin, reach?_cons, reach?_nil, Option.bind_fun_some, led] at both
      generalize other : second.step? second.root [character] = found at both
      cases both
      rw [headMatch_none led, headMatch_none other]
      exact ⟨refl _, rfl⟩
  | some child =>
      have knows : first.step? first.root [character] ≠ none := by simp [led]
      obtain ⟨taken, later, node, rfl, reached, halts⟩ := exists_reach rest knows
      have both := leads (character :: taken) (by simp) ⟨later, rfl⟩
      rw [LeadsAkin, reached] at both
      generalize reachedToo : second.reach? second.root (character :: taken) = found at both
      cases both with
      | @some _ other related =>
          have haltsToo : second.Halts other later := by
            cases later with
            | nil => exact halts_nil other
            | cons next later =>
                have further := leads (character :: taken ++ [next]) (by simp)
                  ⟨later, by simp⟩
                rw [LeadsAkin, (step?_eq_none_iff reached next).1 (halts_cons.1 halts)] at further
                refine halts_cons.2 ((step?_eq_none_iff reachedToo next).2 ?_)
                generalize second.reach? second.root (character :: taken ++ [next]) = found
                  at further
                cases further
                rfl
          rw [headMatch_eq reached halts, headMatch_eq reachedToo haltsToo]
          exact ⟨related.token, by simp [Match.span, kindAt, related.taken]⟩

theorem akin_tokenize {text : Text}
    (leads : ∀ part, part ≠ [] → part <:+: text → LeadsAkin tokens first second part) :
    List.Forall₂ (Match.Akin tokens) (first.tokenize text) (second.tokenize text) :=
  Match.forall₂_scan_of_suffix
    (fun start _ _ tail => akin_headMatch refl start fun part filled beginning =>
      leads part filled (beginning.isInfix.trans tail.isInfix))
    (fun _ _ akin => congrArg (fun span => span.2.1.length) akin.span) 0 0

end

def Reads (trie : Trie α) (known : Symbol → Prop) (text : Text) : Prop :=
  ∀ character ∈ text, known (trie.normalize [character])

theorem Reads.mono {trie : Trie α} {text part : Text} (reads : trie.Reads known text)
    (inside : part ⊆ text) : trie.Reads known part :=
  fun character member => reads character (inside member)

namespace Akin

theorem normalize (akin : Akin tokens known first second) : first.normalize = second.normalize := by
  funext symbol
  rw [Trie.normalize, Trie.normalize, akin.caseInsensitive]

theorem leadsAkin (akin : Akin tokens known first second) {text : Text} (filled : text ≠ [])
    (reads : first.Reads known text) : LeadsAkin tokens first second text := by
  have spelled : ∀ symbol ∈ (Path.ofText text).map first.normalize, known symbol := by
    simpa [Path.ofText, Reads] using reads
  have both := akin.entries _ (by simpa using filled) spelled
  exact leadsAkin_of_entries (akin.normalize ▸ both)

variable [Token α]

theorem headMatch (akin : Akin tokens known first second) (refl : ∀ token, tokens token token)
    (start : Nat) {character : Char} {rest : Text}
    (reads : first.Reads known (character :: rest)) :
    Match.Akin tokens (first.headMatch start character rest)
      (second.headMatch start character rest) :=
  akin_headMatch refl start fun _ filled beginning =>
    akin.leadsAkin filled (reads.mono beginning.subset)

theorem tokenize (akin : Akin tokens known first second) (refl : ∀ token, tokens token token)
    {text : Text} (reads : first.Reads known text) :
    List.Forall₂ (Match.Akin tokens) (first.tokenize text) (second.tokenize text) :=
  akin_tokenize refl fun _ filled inside => akin.leadsAkin filled (reads.mono inside.subset)

theorem laid (akin : Akin tokens known first second) (refl : ∀ token, tokens token token)
    (layer : Trie α) : Akin tokens known (laid Resolver.ruled first layer)
      (laid Resolver.ruled second layer) where
  caseInsensitive := akin.caseInsensitive
  entries := fun path filled spelled => by
    rw [entryAt?_laid Resolver.plain_ruled _ _ filled,
      entryAt?_laid Resolver.plain_ruled _ _ filled]
    have both := akin.entries path filled spelled
    generalize first.root.entryAt? path = one at both
    generalize second.root.entryAt? path = two at both
    cases both with
    | none =>
        cases layer.root.entryAt? path with
        | none => exact .none
        | some above => exact .some ⟨refl _, rfl⟩
    | some related =>
        cases layer.root.entryAt? path with
        | none => exact .some related
        | some above =>
            refine .some ⟨?_, by simp [related.taken]⟩
            cases ruled : above.terminal.taken with
            | true => simpa [Resolver.ruled, Entry.alone, ruled] using refl above.token
            | false => simpa [Resolver.ruled, Entry.alone, ruled] using related.token

theorem headMatch_eq (akin : Akin (· = ·) (fun _ => True) first second) :
    first.headMatch = second.headMatch := by
  funext start character rest
  exact (akin.headMatch (fun _ => rfl) start fun _ _ => trivial).eq

omit [Token α] in
theorem freeze (akin : Akin tokens known first second) :
    Akin tokens known first.freeze second.freeze :=
  ⟨akin.caseInsensitive, akin.entries⟩

theorem overlay (akin : Akin tokens known first second) (refl : ∀ token, tokens token token)
    (mapping : Option (Mapping α)) : Agree (Akin tokens known)
      (first.overlay Resolver.ruled mapping) (second.overlay Resolver.ruled mapping) := by
  cases mapping with
  | none => exact .ok akin
  | some mapping =>
      rw [overlay_some, overlay_some, akin.caseInsensitive]
      cases mapping.toTrie second.caseInsensitive with
      | error failure => exact .error failure
      | ok layer => exact .ok (akin.laid refl layer)

theorem of_overlay (akin : Akin tokens known first second) (refl : ∀ token, tokens token token)
    {mapping : Option (Mapping α)} {one two : Trie α}
    (given : first.overlay Resolver.ruled mapping = .ok one)
    (also : second.overlay Resolver.ruled mapping = .ok two) : Akin tokens known one two := by
  have agree := akin.overlay refl mapping
  rw [given, also] at agree
  cases agree with
  | ok laid => exact laid

theorem pieces (akin : Akin tokens known first second) (refl : ∀ token, tokens token token)
    (mapping : Option (Mapping α)) {text : Text} (reads : first.Reads known text) :
    Agree (List.Forall₂ (Match.Akin tokens)) (first.pieces Resolver.ruled mapping text)
      (second.pieces Resolver.ruled mapping text) := by
  unfold Trie.pieces
  split
  · exact .ok .nil
  · have agree := akin.overlay refl mapping
    generalize given : first.overlay Resolver.ruled mapping = outcome at agree
    generalize second.overlay Resolver.ruled mapping = other at agree
    cases agree with
    | error failure => exact .error failure
    | ok laid =>
        refine .ok (laid.tokenize refl fun character member => ?_)
        rw [Trie.normalize, caseInsensitive_of_overlay given]
        exact reads character member

end Akin
end Trie
end Honji
