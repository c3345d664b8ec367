import Honji.Listener
import Honji.Proofs.Compositional

/-!
Events account for everything that was not a rule. The pieces of a text that are told and those that
rules stood for make up the text between them, and what is written is written for one or the other.
Whether anybody listens makes no difference to it.
-/

namespace Honji

/-! ### Pieces that are told -/

namespace Match
variable {α : Type} {position : Nat} {text : Text} {pieces : List (Match α)} {piece : Match α}

theorem event?_eq_some_iff {converter : Text} {event : Event α} :
    piece.event? converter = some event ↔ piece.kind ≠ .terminal ∧
      ⟨piece.kind, converter, piece.start, piece.stop, piece.source, piece.token⟩ = event := by
  obtain ⟨token, start, source, kind⟩ := piece
  cases kind <;> simp [event?]

theorem mem_events {converter : Text} {event : Event α} :
    event ∈ pieces.filterMap (·.event? converter) ↔ ∃ piece ∈ pieces, piece.kind ≠ .terminal ∧
      ⟨piece.kind, converter, piece.start, piece.stop, piece.source, piece.token⟩ = event := by
  simp only [List.mem_filterMap, event?_eq_some_iff]

theorem Tiles.untold_iff (tiles : Tiles position text pieces) (converter : Text) {place : Nat}
    (after : position ≤ place) (before : place < position + text.length) :
    (¬ ∃ event ∈ pieces.filterMap (·.event? converter),
        event.start ≤ place ∧ place < event.stop) ↔
      ∃ piece ∈ pieces, piece.kind = .terminal ∧ piece.start ≤ place ∧ place < piece.stop := by
  simp only [mem_events]
  constructor
  · intro untold
    obtain ⟨number, covers, -⟩ := tiles.existsUnique after before
    refine ⟨pieces[number], List.getElem_mem _, ?_, covers⟩
    by_contra unruled
    exact untold ⟨_, ⟨_, List.getElem_mem _, unruled, rfl⟩, covers⟩
  · rintro ⟨piece, member, ruled, covers⟩ ⟨_, ⟨other, also, unruled, rfl⟩, coversToo⟩
    exact unruled (tiles.eq_of_covers member also covers coversToo ▸ ruled)

theorem perm_told {β : Type} (converter : Text) (ofPiece : Match α → β) (ofEvent : Event α → β)
    (same : ∀ piece event, piece.event? converter = some event → ofEvent event = ofPiece piece)
    (pieces : List (Match α)) : (pieces.map ofPiece).Perm
      ((pieces.filter (·.kind = .terminal)).map ofPiece ++
        (pieces.filterMap (·.event? converter)).map ofEvent) := by
  induction pieces with
  | nil => exact .refl _
  | cons piece pieces ih =>
      by_cases ruled : piece.kind = .terminal
      · have untold : piece.event? converter = none := by simp [event?, ruled]
        rw [List.filter_cons_of_pos (by simpa using ruled), List.filterMap_cons_none untold]
        exact ih.cons _
      · have told : piece.event? converter = some _ := event?_eq_some_iff.2 ⟨ruled, rfl⟩
        rw [List.filter_cons_of_neg (by simpa using ruled), List.filterMap_cons_some told,
          List.map_cons, List.map_cons, same piece _ told]
        exact (ih.cons _).trans List.perm_middle.symm

end Match

/-! ### Longest matches -/

namespace Trie
variable {trie : Trie Text} {text : Text} {position : Nat} {piece : Match Text}

theorem IsLongest.kind_iff (longest : trie.IsLongest text position piece) :
    piece.kind = .terminal ↔ trie.contains (.ofText piece.source) = true := by
  obtain ⟨-, source, longest⟩ := longest
  split at longest
  case h_1 unknown =>
    obtain ⟨stop, kind, -⟩ := longest
    rw [source, stop, contains, unknown, kind]
    simp
  case h_2 =>
    obtain ⟨-, -, kind⟩ := longest
    rw [source, kind]
    split <;> simp_all

theorem IsLongest.fallback (longest : trie.IsLongest text position piece)
    (unknown : piece.kind = .fallback) :
    piece.stop = piece.start + 1 ∧ piece.token = piece.source := by
  obtain ⟨rfl, source, longest⟩ := longest
  split at longest
  case h_1 =>
    obtain ⟨stop, -, token⟩ := longest
    exact ⟨stop, by rw [token, source, stop]; rfl⟩
  case h_2 =>
    obtain ⟨-, -, kind⟩ := longest
    rw [unknown] at kind
    split at kind <;> cases kind

end Trie

/-! ### Reports -/

/--
A report accounts for a text. Each piece is the longest match in the trie that is in charge of it;
what is told of the pieces, and what rules stood for, make up the text; and something is written for
each piece.
-/
structure Report.Accounts (report : Report) (text : Text) (converter : Text)
    (charge : Match Text → Trie Text) (written : Match Text → Text)
    (pieces : List (Match Text)) : Prop where
  tiles : Match.Tiles 0 text pieces
  ordered : pieces.Pairwise fun earlier later => earlier.stop ≤ later.start
  longest : ∀ piece ∈ pieces, (charge piece).IsLongest text piece.start piece
  terminals : ∀ piece ∈ pieces, piece.kind = .terminal ↔
    (charge piece).contains (.ofText piece.source) = true
  told : report.events = pieces.filterMap (·.event? converter)
  filled : ∀ event ∈ report.events, event.start < event.stop ∧ event.stop ≤ text.length
  apart : report.events.Pairwise fun earlier later => earlier.stop ≤ later.start
  texts : ∀ event ∈ report.events, event.text = text.slice event.start event.stop
  fallbacks : ∀ event ∈ report.events, event.kind = .fallback →
    event.stop = event.start + 1 ∧ event.token = event.text
  ruled : ∀ place < text.length,
    (¬ ∃ event ∈ report.events, event.start ≤ place ∧ place < event.stop) ↔
      ∃ piece ∈ pieces, piece.kind = .terminal ∧ piece.start ≤ place ∧ place < piece.stop
  parts : (pieces.map fun piece => (piece.start, piece.stop, piece.token)).Perm
    (((pieces.filter (·.kind = .terminal)).map fun piece =>
        (piece.start, piece.stop, piece.token)) ++
      report.events.map fun event => (event.start, event.stop, event.token))
  outcome : report.outcome = .ok (pieces.flatMap written)

theorem Report.Covers.accounts {report : Report} {converter text : Text}
    {charge : Match Text → Trie Text} {written : Match Text → Text} {pieces : List (Match Text)}
    (covers : report.Covers converter pieces written) (tiles : Match.Tiles 0 text pieces)
    (longest : ∀ piece ∈ pieces, (charge piece).IsLongest text piece.start piece) :
    report.Accounts text converter charge written pieces := by
  have told {event : Event Text} (member : event ∈ report.events) := by
    rw [covers.events] at member
    exact Match.mem_events.1 member
  refine ⟨tiles, tiles.pairwise, longest, fun piece member => (longest piece member).kind_iff, covers.events,
    fun event member => ?_, ?_, fun event member => ?_, fun event member unknown => ?_,
    fun place inside => ?_, ?_, covers.outcome⟩
  · obtain ⟨piece, cut, -, rfl⟩ := told member
    simpa using tiles.stop_le_length cut
  · rw [covers.events, List.pairwise_filterMap]
    refine tiles.pairwise.imp fun behind event heard later also => ?_
    obtain ⟨-, rfl⟩ := Match.event?_eq_some_iff.1 heard
    obtain ⟨-, rfl⟩ := Match.event?_eq_some_iff.1 also
    exact behind
  · obtain ⟨piece, cut, -, rfl⟩ := told member
    exact (longest piece cut).2.1
  · obtain ⟨piece, cut, -, rfl⟩ := told member
    exact (longest piece cut).fallback unknown
  · rw [covers.events]
    exact tiles.untold_iff converter (Nat.zero_le place) (by simpa using inside)
  · rw [covers.events]
    refine Match.perm_told converter _ _ (fun piece event heard => ?_) pieces
    obtain ⟨-, rfl⟩ := Match.event?_eq_some_iff.1 heard
    rfl

/-! ### Listeners -/

section
variable {σ : Type}

def Listener.told (listener : Option (Listener σ)) (events : List (Event Text)) (state : σ) : σ :=
  match listener with
  | none => state
  | some hear => events.foldl (fun known event => hear event known) state

@[simp] theorem Listener.told_nil (listener : Option (Listener σ)) (state : σ) :
    told listener [] state = state := by
  cases listener <;> rfl

theorem Listener.told_append (listener : Option (Listener σ)) (first second : List (Event Text))
    (state : σ) : told listener (first ++ second) state =
      told listener second (told listener first state) := by
  cases listener with
  | none => rfl
  | some hear => exact List.foldl_append

theorem Match.run_tell (listener : Option (Listener σ)) (converter : Text) (piece : Match Text)
    (state : σ) : Steps.run (piece.tell listener converter) state =
      (.ok (), Listener.told listener (piece.event? converter).toList state) := by
  cases listener <;> cases heard : piece.event? converter <;>
    simp [tell, heard, Listener.told]

theorem Match.run_transcribe (head : Nat → Char → Text → Match Text)
    (listener : Option (Listener σ)) (converter : Text) (written : Match Text → Text)
    (skip position : Nat) (text : Text) (state : σ) :
    Steps.run (transcribe head listener converter written skip position text) state =
      (.ok ((scan head skip position text).flatMap written),
        Listener.told listener
          ((scan head skip position text).filterMap (·.event? converter)) state) := by
  induction text generalizing skip position state with
  | nil => cases skip <;> simp [transcribe, scan]
  | cons character rest ih =>
      cases skip with
      | succ skip => exact ih skip (position + 1) state
      | zero =>
          have events (piece : Match Text) (pieces : List (Match Text)) :
              (piece :: pieces).filterMap (·.event? converter) =
                (piece.event? converter).toList ++ pieces.filterMap (·.event? converter) := by
            cases heard : piece.event? converter <;> simp [heard]
          simp only [transcribe, scan, Steps.run_bind, run_tell, ih, Steps.run_pure, events,
            Listener.told_append, List.flatMap_cons]

/-- Who listens is told the events of a report, and it comes to the same if nobody does. -/
def Report.Heard (report : Report) (transcribe : ∀ σ, Option (Listener σ) → ListenedM σ Text) :
    Prop :=
  ∀ (σ : Type) (listener : Option (Listener σ)) (state : σ),
    Steps.run (transcribe σ listener) state =
      (report.outcome, Listener.told listener report.events state)

end

/-! ### Converters to Latin letters -/

namespace Trie
variable {trie : Trie Text} {text : Text} {piece : Match Text}

theorem isLongest_of_mem_tokenize (member : piece ∈ trie.tokenize text) :
    trie.IsLongest text piece.start piece := by
  obtain ⟨before, character, rest, rfl, made⟩ := Match.mem_scan trie.cuts_headMatch member
  rw [Nat.zero_add] at made
  rw [made, start_headMatch]
  exact headMatch_isLongest trie before character rest

end Trie

namespace Romanizer

inductive Accounted (romanizer : Romanizer) (call : Option (Mapping Text)) : Prop
  | refused (empty : [] ∈ Mapping.pathsOf call)
      (fails : ∀ text ≠ [], ∀ choice, (romanizer.convert text choice call).events = [] ∧
        (romanizer.convert text choice call).outcome = .error .emptyPath)
  | taken (active : Trie Text) (given : romanizer.active.overlay Resolver.ruled call = .ok active)
      (accounts : ∀ text choice, (romanizer.convert text choice call).Accounts text romanizer.name
        (fun _ => active) (if romanizer.capitalizes choice then capitalized else Match.token)
        (active.tokenize text))

theorem accounted (romanizer : Romanizer) (call : Option (Mapping Text)) :
    romanizer.Accounted call := by
  rcases romanizer.active.overlay_cases Resolver.ruled call with
    ⟨empty, refused⟩ | ⟨-, active, given⟩
  · refine .refused empty fun text filled choice => ?_
    rw [convert_of_refused refused filled]
    exact ⟨rfl, rfl⟩
  · exact .taken active given fun text choice => (covers_convert given text choice).accounts
      (active.tokenize_tiles text) fun piece member => Trie.isLongest_of_mem_tokenize member

theorem heard (romanizer : Romanizer) (text : Text) (choice : Choice)
    (call : Option (Mapping Text)) : (romanizer.convert text choice call).Heard
      fun _ listener => romanizer.transcribe listener text choice call := by
  intro σ listener state
  cases text with
  | nil => simp [transcribe, convert, Report.blank, Report.events]
  | cons character rest =>
      simp only [transcribe, List.isEmpty_cons, Bool.false_eq_true, if_false, Steps.run_bind,
        Steps.run_lift]
      rcases romanizer.active.overlay_cases Resolver.ruled call with
        ⟨-, refused⟩ | ⟨-, active, given⟩
      · simp [convert_of_refused refused (List.cons_ne_nil _ _), refused, Report.events]
      · have covers := covers_convert given (character :: rest) choice
        rw [covers.outcome, covers.events, given]
        exact Match.run_transcribe ..

end Romanizer

/-! ### Converters to kana -/

namespace Composer
variable {composer : Composer} {hiragana katakana : Trie Text} {text : Text} {piece : Match Text}

def inCharge (hiragana katakana : Trie Text) (piece : Match Text) : Trie Text :=
  if piece.source.isUpper then katakana else hiragana

theorem isLongest_of_mem_tokenize (alike : hiragana.Alike katakana)
    (member : piece ∈ tokenize hiragana katakana text) :
    (inCharge hiragana katakana piece).IsLongest text piece.start piece := by
  obtain ⟨before, character, rest, rfl, made⟩ :=
    Match.mem_scan (cuts_headMatch hiragana katakana) member
  rw [Nat.zero_add] at made
  have start : piece.start = before.length :=
    made ▸ (cuts_headMatch hiragana katakana before.length character rest).1
  have source := (source_headMatch alike before.length character rest).1
  rw [inCharge, start, made, source, headMatch]
  split
  · exact katakana.headMatch_isLongest before character rest
  · exact hiragana.headMatch_isLongest before character rest

inductive Accounted (composer : Composer) (call : Option (Mapping Text)) : Prop
  | refused (empty : [] ∈ Mapping.pathsOf call)
      (fails : ∀ text ≠ [], composer.convert text call = ⟨.error .emptyPath, []⟩)
  | taken (hiragana katakana : Trie Text)
      (active : composer.active call = .ok (hiragana, katakana))
      (accounts : ∀ text, (composer.convert text call).Accounts text name
        (inCharge hiragana katakana) Match.token (tokenize hiragana katakana text))

namespace Paired
variable (paired : composer.Paired) (call : Option (Mapping Text))
include paired

theorem accounted : composer.Accounted call := by
  rcases ComposerRules.active_cases paired.alike call with
    ⟨empty, refused⟩ | ⟨-, hiragana, katakana, active, alike⟩
  · exact .refused empty fun text filled => convert_of_refused refused filled
  · exact .taken hiragana katakana active fun text => (covers_convert active text).accounts
      (Match.scan_tiles (cuts_headMatch hiragana katakana) 0 text)
      fun piece member => isLongest_of_mem_tokenize alike member

theorem heard (text : Text) : (composer.convert text call).Heard
    fun _ listener => composer.transcribe listener text call := by
  intro σ listener state
  cases text with
  | nil => simp [transcribe, convert, Report.blank, Report.events]
  | cons character rest =>
      simp only [transcribe, List.isEmpty_cons, Bool.false_eq_true, if_false, Steps.run_bind,
        Steps.run_lift]
      rcases paired.alike.overlay_cases Resolver.ruled call with
        ⟨-, refused⟩ | ⟨-, hiragana, katakana, given, also, -⟩
      · simp [convert, pieces, refused, bind, Except.bind, Report.events]
      · have active : composer.active call = .ok (hiragana, katakana) := by
          simp [Composer.active, given, also, bind, Except.bind, pure, Except.pure]
        have covers := covers_convert active (character :: rest)
        rw [covers.outcome, covers.events, given, also]
        exact Match.run_transcribe ..

end Paired
end Composer

namespace Registry

/--
Conversions account for their texts under all rules that they take, and those who listen to them are
told what the account says. A converter to kana can be made unless one of its rules has an empty
path.
-/
theorem events_account (romanizer : Romanizer) (history : List Request) (obsolete : Choice)
    (own : Option (Mapping Text)) :
    (∀ call, romanizer.Accounted call ∧ ∀ text choice,
      (romanizer.convert text choice call).Heard
        fun _ listener => romanizer.transcribe listener text choice call) ∧
      (([] ∈ Mapping.pathsOf own ∧
          (Steps.run (newComposer obsolete own) (after history)).1 = .error .emptyPath) ∨
        ∃ composer, (Steps.run (newComposer obsolete own) (after history)).1 = .ok composer ∧
          ∀ call, composer.Accounted call ∧ ∀ text, (composer.convert text call).Heard
            fun _ listener => composer.transcribe listener text call) := by
  refine ⟨fun call => ⟨romanizer.accounted call, fun text choice =>
    romanizer.heard text choice call⟩, ?_⟩
  rw [run_newComposer]
  rcases ComposerRules.makeComposer_standard obsolete own with
    refused | ⟨-, composer, made, paired⟩
  · exact .inl refused
  · exact .inr ⟨composer, made, fun call => ⟨paired.accounted call, paired.heard call⟩⟩

end Registry
end Honji
