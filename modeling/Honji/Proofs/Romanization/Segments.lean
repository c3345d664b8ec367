import Honji.Proofs.OwnRules
import Honji.Proofs.Reports
import Honji.Proofs.Trie.Akin

/-!
What the methods of romanization have in common. Tables of one shape name rules for the same paths,
whatever the tokens are, so the converters of all methods cut a text into the same pieces; and
tables that differ in their long vowels alone name the same rules for all paths without the sign of
a long vowel.
-/

namespace Honji

theorem Trie.akin_of_holds {tokens : Text → Text → Prop} {known : Symbol → Prop}
    {first second : Trie Text} {rules others : List Rule}
    (manner : first.caseInsensitive = second.caseInsensitive) (holds : first.root.Holds rules)
    (more : second.root.Holds others)
    (paths : ∀ path, (∀ symbol ∈ path, known symbol) →
      (path ∈ rules.map Prod.fst ↔ path ∈ others.map Prod.fst))
    (related : ∀ path token other, path ≠ [] → (∀ symbol ∈ path, known symbol) →
      (path, token) ∈ rules → (path, other) ∈ others → tokens token other) :
    first.Akin tokens known second where
  caseInsensitive := manner
  entries := fun path filled spelled => by
    cases here : first.root.entryAt? path with
    | none =>
        have absent := (holds.entryAt?_eq_none_iff filled).1 here
        rw [(more.entryAt?_eq_none_iff filled).2 (mt (paths path spelled).2 absent)]
        exact .none
    | some entry =>
        obtain ⟨token, member, rfl⟩ := holds.exists_of_entryAt? filled here
        obtain ⟨⟨path, other⟩, also, rfl⟩ :=
          List.mem_map.1 ((paths path spelled).1 (List.mem_map_of_mem member))
        rw [more.entryAt?_of_mem filled also]
        exact .some ⟨related path token other filled spelled member also, rfl⟩

namespace RomanizationRules
variable {rules others : RomanizationRules}

@[mk_iff]
structure SameShape (rules others : RomanizationRules) : Prop where
  syllables : rules.syllabary.keys = others.syllabary.keys
  contracted : rules.contractions.keys = others.contractions.keys
  nasals : rules.nasalFollowers.keys = others.nasalFollowers.keys
  excluded : rules.geminationExclusions = others.geminationExclusions
  marks : rules.punctuation.keys = others.punctuation.keys
  filled : ∀ rule ∈ rules.plainRules ++ others.plainRules, rule.2 ≠ []

theorem paths_plainRules (wellFormed : rules.WellFormed) : rules.plainRules.map Prod.fst =
    rules.syllabary.keys.map ([·]) ++
      rules.contractions.keys.flatMap (fun kana => glides.map ([kana, ·])) ++
      rules.nasalFollowers.keys.map ([nasal, ·]) := by
  have contractions : rules.contractionRules.map Prod.fst =
      rules.contractions.keys.flatMap (fun kana => glides.map ([kana, ·])) := by
    rw [contractionRules, List.map_flatMap, Table.keys, List.flatMap_map]
    refine List.flatMap_congr fun entry listed => ?_
    have enough : glides.length ≤ entry.2.length :=
      Nat.le_of_eq (wellFormed.contracted entry listed).2.symm
    calc (rules.contractionsOf entry).map Prod.fst
        = ((glides.zip entry.2).map Prod.fst).map ([entry.1, ·]) := by
          simp [contractionsOf, Function.comp_def]
      _ = glides.map ([entry.1, ·]) := by rw [List.map_fst_zip enough]
  rw [plainRules, List.map_append, List.map_append, contractions]
  simp [syllableRules, nasalRules, Table.keys, Function.comp_def]

def carries (path : Path) : Bool :=
  !path.head?.any ([nasal, smallTsu].contains ·)

theorem doubled_ne_nil {token : Text} (filled : token ≠ []) : rules.doubled token ≠ [] := by
  obtain ⟨letter, rest, rfl⟩ := List.exists_cons_of_ne_nil filled
  rw [doubled]
  split <;> simp

theorem prolongs_eq (filled : ∀ rule ∈ rules.plainRules, rule.2 ≠ []) {rule : Rule}
    (member : rule ∈ rules.doubledRules) : prolongs rule = carries rule.1 := by
  have spoken : rule = ([smallTsu], []) ∨ rule.2 ≠ [] := by
    rcases List.mem_append.1 member with plain | doubling
    · exact .inr (filled rule plain)
    · rcases mem_doublingRules.1 doubling with rfl | ⟨plain, listed, -, rfl⟩
      · exact .inl rfl
      · exact .inr (doubled_ne_nil (filled plain listed))
  rcases spoken with rfl | spoken
  · rfl
  · simp [prolongs, carries, spoken]

theorem paths_doublingRules (rules : RomanizationRules) : rules.doublingRules.map Prod.fst =
    [smallTsu] :: ((rules.plainRules.map Prod.fst).filter rules.doubles).map (smallTsu :: ·) := by
  simp [doublingRules, List.filter_map, Function.comp_def]

theorem paths_longRules (filled : ∀ rule ∈ rules.plainRules, rule.2 ≠ []) :
    rules.longRules.map Prod.fst =
      ((rules.doubledRules.map Prod.fst).filter carries).map (· ++ [prolongedSound]) := by
  rw [longRules, List.filter_congr fun rule member => prolongs_eq filled member]
  simp [List.filter_map, Function.comp_def]

namespace SameShape
variable (same : rules.SameShape others) (wellFormed : rules.WellFormed)
  (otherWellFormed : others.WellFormed)
include same wellFormed otherWellFormed

theorem paths_doubledRules :
    rules.doubledRules.map Prod.fst = others.doubledRules.map Prod.fst := by
  have plain : rules.plainRules.map Prod.fst = others.plainRules.map Prod.fst := by
    rw [paths_plainRules wellFormed, paths_plainRules otherWellFormed, same.syllables,
      same.contracted, same.nasals]
  have doubles : rules.doubles = others.doubles := by
    funext path
    rw [doubles, doubles, same.excluded]
  rw [doubledRules, doubledRules, List.map_append, List.map_append, paths_doublingRules,
    paths_doublingRules, plain, doubles]

theorem paths_ruleList : rules.ruleList.map Prod.fst = others.ruleList.map Prod.fst := by
  obtain ⟨filled, otherFilled⟩ := List.forall_mem_append.1 same.filled
  have doubled := same.paths_doubledRules wellFormed otherWellFormed
  have long : rules.longRules.map Prod.fst = others.longRules.map Prod.fst := by
    rw [paths_longRules filled, paths_longRules otherFilled, doubled]
  have written (known : List Rule) : (known.map Script.katakana.writeRule).map Prod.fst =
      (known.map Prod.fst).map (List.map Script.katakana.write) := by
    simp [Script.writeRule, Function.comp_def]
  have marks (tables : RomanizationRules) :
      tables.punctuationRules.map Prod.fst = tables.punctuation.keys.map ([·]) := by
    simp [punctuationRules, Table.keys, Function.comp_def]
  simp only [ruleList, scriptRules, List.map_append, written, marks, same.marks, long, doubled]

end SameShape

instance (rules others : RomanizationRules) : Decidable (rules.SameShape others) :=
  decidable_of_iff' _ (sameShape_iff rules others)

theorem SameShape.symm (same : rules.SameShape others) : others.SameShape rules where
  syllables := same.syllables.symm
  contracted := same.contracted.symm
  nasals := same.nasals.symm
  excluded := same.excluded.symm
  marks := same.marks.symm
  filled := List.forall_mem_append.2 (List.forall_mem_append.1 same.filled).symm

theorem SameShape.trans {further : RomanizationRules} (first : rules.SameShape others)
    (second : others.SameShape further) : rules.SameShape further where
  syllables := first.syllables.trans second.syllables
  contracted := first.contracted.trans second.contracted
  nasals := first.nasals.trans second.nasals
  excluded := first.excluded.trans second.excluded
  marks := first.marks.trans second.marks
  filled := List.forall_mem_append.2 ⟨(List.forall_mem_append.1 first.filled).1,
    (List.forall_mem_append.1 second.filled).2⟩

theorem SameShape.standard {syllabary : Table Text Text} {contractions : Table Text (List Text)}
    {method : Method} {longVowel : LongVowel}
    (filled : ∀ rule ∈ (standard method syllabary contractions longVowel).plainRules, rule.2 ≠ [])
    (other : Method) (otherVowel : LongVowel) :
    (RomanizationRules.standard method syllabary contractions longVowel).SameShape
      (RomanizationRules.standard other syllabary contractions otherVowel) :=
  ⟨rfl, rfl, rfl, rfl, rfl, List.forall_mem_append.2 ⟨filled, filled⟩⟩

theorem ofMethod_sameShape (method other : Method) :
    (ofMethod method).SameShape (ofMethod other) := by
  have kunrei : (ofMethod .hepburn).SameShape (ofMethod .kunrei) := by decide +kernel
  have nihon : (ofMethod .hepburn).SameShape (ofMethod .nihon) := by decide +kernel
  have filled := (List.forall_mem_append.1 kunrei.filled).1
  have fromHepburn (method : Method) : (ofMethod .hepburn).SameShape (ofMethod method) := by
    cases method with
    | hepburn => exact .standard filled _ _
    | modifiedHepburn => exact .standard filled _ _
    | kunrei => exact kunrei
    | nihon => exact nihon
    | wapuro => exact .standard filled _ _
  exact (fromHepburn method).symm.trans (fromHepburn other)

/-! ### Long vowels -/

theorem mem_ruleList_iff {rule : Rule} (plain : prolongedSound ∉ rule.1) :
    rule ∈ rules.ruleList ↔ rule ∈ rules.doubledRules ++
      rules.doubledRules.map Script.katakana.writeRule ++ rules.punctuationRules := by
  have short : rule ∉ rules.longRules.map Script.katakana.writeRule := by
    intro member
    obtain ⟨long, listed, rfl⟩ := List.mem_map.1 member
    obtain ⟨short, -, -, rfl⟩ := mem_longRules.1 listed
    have sign : Script.katakana.write prolongedSound = prolongedSound := by decide
    simp [Script.writeRule, sign] at plain
  simp only [ruleList, scriptRules, List.map_append, List.mem_append, short, or_false]

end RomanizationRules

def Method.hepburnLike : Method → Bool
  | .hepburn | .modifiedHepburn | .wapuro => true
  | .kunrei | .nihon => false

theorem Method.exists_longVowel {method : Method} (like : method.hepburnLike = true) :
    ∃ longVowel, RomanizationRules.ofMethod method = .standard method
      RomanizationRules.hepburnSyllabary RomanizationRules.hepburnContractions longVowel := by
  cases method with
  | hepburn | modifiedHepburn | wapuro => exact ⟨_, rfl⟩
  | kunrei | nihon => cases like

theorem RomanizationRules.mem_ruleList_hepburnLike {method other : Method}
    (like : method.hepburnLike = true) (alsoLike : other.hepburnLike = true) {rule : Rule}
    (plain : prolongedSound ∉ rule.1) :
    rule ∈ (ofMethod method).ruleList ↔ rule ∈ (ofMethod other).ruleList := by
  obtain ⟨longVowel, same⟩ := Method.exists_longVowel like
  obtain ⟨otherVowel, otherSame⟩ := Method.exists_longVowel alsoLike
  rw [mem_ruleList_iff plain, mem_ruleList_iff plain, same, otherSame]
  exact Iff.rfl

/-! ### Converters -/

theorem Match.map_span_of_akin {α : Type} {tokens : α → α → Prop} {pieces others : List (Match α)}
    (akin : List.Forall₂ (Match.Akin tokens) pieces others) :
    pieces.map span = others.map span := by
  induction akin with
  | nil => rfl
  | cons front _ ih => rw [List.map_cons, List.map_cons, front.span, ih]

namespace Romanizer

/--
The converters of two methods cut every text into the same pieces and report them at the same
places, under all rules for a call. If the methods differ in their long vowels alone, what they
write differs only where there is the sign of a long vowel.
-/
structure InStep (method other : Method) (first second : Romanizer) : Prop where
  pieces : ∀ mapping text, Agree (fun one two => one.map Match.span = two.map Match.span)
    (first.pieces mapping text) (second.pieces mapping text)
  events : ∀ mapping text choice otherChoice,
    (first.convert text choice mapping).events.map Event.place =
      (second.convert text otherChoice mapping).events.map Event.place
  outcome : method.hepburnLike = true → other.hepburnLike = true →
    first.upcaseKatakana = second.upcaseKatakana → ∀ mapping text choice,
      'ー' ∉ text →
        (first.convert text choice mapping).outcome = (second.convert text choice mapping).outcome

variable {first second : Romanizer}

theorem map_span_pieces
    (akin : first.active.Akin (fun _ _ => True) (fun _ => True) second.active)
    (mapping : Option (Mapping Text)) (text : Text) :
    Agree (fun one two => one.map Match.span = two.map Match.span)
      (first.pieces mapping text) (second.pieces mapping text) := by
  have reads : first.active.Reads (fun _ => True) text := fun _ _ => trivial
  have agree := akin.pieces (fun _ => trivial) mapping reads
  unfold pieces
  generalize first.active.pieces Resolver.ruled mapping text = one at agree ⊢
  generalize second.active.pieces Resolver.ruled mapping text = two at agree ⊢
  cases agree with
  | error failure => exact .error failure
  | ok akin => exact .ok (Match.map_span_of_akin akin)

theorem place_events_convert {mapping : Option (Mapping Text)} {text : Text}
    (agree : Agree (fun one two => one.map Match.span = two.map Match.span)
      (first.pieces mapping text) (second.pieces mapping text)) (choice otherChoice : Choice) :
    (first.convert text choice mapping).events.map Event.place =
      (second.convert text otherChoice mapping).events.map Event.place := by
  unfold convert
  split
  · rfl
  · generalize first.pieces mapping text = one at agree ⊢
    generalize second.pieces mapping text = two at agree ⊢
    cases agree with
    | error failure => rfl
    | ok spans => simp only [Report.map_place_events, Match.map_place, spans]

theorem outcome_convert_of_akin {known : Symbol → Prop}
    (akin : first.active.Akin (· = ·) known second.active)
    (capitals : ∀ choice, first.capitalizes choice = second.capitalizes choice)
    (mapping : Option (Mapping Text)) {text : Text} (reads : first.active.Reads known text)
    (choice : Choice) :
    (first.convert text choice mapping).outcome = (second.convert text choice mapping).outcome := by
  have agree := akin.pieces (fun _ => rfl) mapping reads
  unfold convert pieces
  split
  · rfl
  · generalize first.active.pieces Resolver.ruled mapping text = one at agree ⊢
    generalize second.active.pieces Resolver.ruled mapping text = two at agree ⊢
    cases agree with
    | error failure => rfl
    | ok akin => simp only [Match.eq_of_akin akin, capitals, Report.ofPieces]

theorem create_inStep {method other : Method} {rules others : RuleSet}
    (shaped : rules.trie.Akin (fun _ _ => True) (fun _ => True) others.trie)
    (spelled : method.hepburnLike = true → other.hepburnLike = true →
      rules.trie.Akin (· = ·) (· ≠ RomanizationRules.prolongedSound) others.trie)
    (manner : rules.trie.caseInsensitive = false)
    (capitals : rules.upcaseKatakana = others.upcaseKatakana) (upcaseKatakana otherUpcase : Choice)
    (own : Option (Mapping Text)) :
    ([] ∈ Mapping.pathsOf own ∧ create rules upcaseKatakana own = .error .emptyPath ∧
        create others otherUpcase own = .error .emptyPath) ∨
      ([] ∉ Mapping.pathsOf own ∧ ∃ first second, create rules upcaseKatakana own = .ok first ∧
        create others otherUpcase own = .ok second ∧ InStep method other first second) := by
  rcases rules.trie.overlay_cases Resolver.ruled own with ⟨empty, fails⟩ | ⟨filled, laid, given⟩ <;>
    rcases others.trie.overlay_cases Resolver.ruled own with
      ⟨otherEmpty, otherFails⟩ | ⟨otherFilled, otherLaid, otherGiven⟩
  · exact .inl ⟨empty, by rw [create, fails]; rfl, by rw [create, otherFails]; rfl⟩
  · exact absurd empty otherFilled
  · exact absurd otherEmpty filled
  · refine .inr ⟨filled, ⟨rules, laid.freeze, own.isSome, upcaseKatakana⟩,
      ⟨others, otherLaid.freeze, own.isSome, otherUpcase⟩, by rw [create, given]; rfl,
      by rw [create, otherGiven]; rfl, ?_⟩
    have akin := (shaped.of_overlay (fun _ => trivial) given otherGiven).freeze
    constructor
    case pieces => exact map_span_pieces akin
    case events =>
      exact fun mapping text => place_events_convert (map_span_pieces akin mapping text)
    case outcome =>
      rintro like alsoLike rfl mapping text choice plain
      refine outcome_convert_of_akin ((spelled like alsoLike).of_overlay (fun _ => rfl) given
        otherGiven).freeze (fun choice => by simp only [capitalizes, capitals]) mapping ?_ choice
      intro character member
      -- as long as case matters, no other character is looked up as the sign
      have stands : laid.freeze.normalize [character] = [character] := by
        have sensitive : laid.freeze.caseInsensitive = false :=
          (Trie.caseInsensitive_of_overlay given).trans manner
        simp [Trie.normalize, sensitive]
      rw [stands]
      rintro same
      obtain rfl : character = 'ー' := List.singleton_inj.1 same
      exact plain member

end Romanizer

namespace Registry

/--
The method never matters for the pieces: with the same rules of a caller's own, converters of any
two methods can be made or neither can, and then they go in step.
-/
theorem newRomanizer_inStep (history otherHistory : List Request) (method other : Method)
    (upcaseKatakana otherUpcase : Choice) (own : Option (Mapping Text)) :
    let made := (Steps.run (newRomanizer method upcaseKatakana own) (after history)).1
    let otherMade := (Steps.run (newRomanizer other otherUpcase own) (after otherHistory)).1
    ([] ∈ Mapping.pathsOf own ∧ made = .error .emptyPath ∧ otherMade = .error .emptyPath) ∨
      ([] ∉ Mapping.pathsOf own ∧ ∃ first second, made = .ok first ∧ otherMade = .ok second ∧
        Romanizer.InStep method other first second) := by
  obtain ⟨rules, compiled, -, upcase, manner, holds⟩ :=
    (RomanizationRules.ofMethod_wellFormed method).compile_holds
  obtain ⟨others, otherCompiled, -, otherUp, otherManner, more⟩ :=
    (RomanizationRules.ofMethod_wellFormed other).compile_holds
  have paths := (RomanizationRules.ofMethod_sameShape method other).paths_ruleList
    (RomanizationRules.ofMethod_wellFormed method) (RomanizationRules.ofMethod_wellFormed other)
  have shaped : rules.trie.Akin (fun _ _ => True) (fun _ => True) others.trie :=
    Trie.akin_of_holds (manner.trans otherManner.symm) holds more (fun path _ => by rw [paths])
      fun _ _ _ _ _ _ _ => trivial
  have spelled (like : method.hepburnLike = true) (alsoLike : other.hepburnLike = true) :
      rules.trie.Akin (· = ·) (· ≠ RomanizationRules.prolongedSound) others.trie := by
    have same {path : Path} (free : ∀ symbol ∈ path, symbol ≠ RomanizationRules.prolongedSound)
        (token : Text) : (path, token) ∈ (RomanizationRules.ofMethod method).ruleList ↔
          (path, token) ∈ (RomanizationRules.ofMethod other).ruleList :=
      RomanizationRules.mem_ruleList_hepburnLike like alsoLike fun member => free _ member rfl
    refine Trie.akin_of_holds (manner.trans otherManner.symm) holds more
      (fun path _ => by rw [paths]) fun path token word filled free member also => ?_
    exact more.unique filled ((same free token).1 member) also
  have capitals : rules.upcaseKatakana = others.upcaseKatakana := by
    have standard (method : Method) :
        (RomanizationRules.ofMethod method).upcaseKatakana = some true := by
      cases method <;> rfl
    rw [upcase, otherUp, standard, standard]
  simp only [run_newRomanizer, compiled, otherCompiled]
  exact Romanizer.create_inStep shaped spelled manner capitals upcaseKatakana otherUpcase own

end Registry
end Honji
