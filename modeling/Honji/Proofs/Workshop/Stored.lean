import Honji.Proofs.Trie.Alike
import Honji.Proofs.Workshop.Calls

/-!
Rule sets and converters whose tries stand in a forest for good. Publishing rules, making a
converter and converting a text come to what they come to with the tries that are read, and leave
every node as it was.
-/

namespace Honji

theorem Trie.freeze_of_frozen {α : Type} {trie : Trie α} (frozen : trie.frozen = true) :
    trie.freeze = trie := by
  rw [freeze, ← frozen]

/-- What has tries in a forest and is read from there. -/
class Planted (τ : Type) (β : outParam Type) where
  tries : τ → List (RootedTrie Text)
  read : τ → Forest Text → β
  congr : ∀ stored before after, (∀ trie ∈ tries stored, trie.read after = trie.read before) →
    read stored after = read stored before

instance : Planted (RootedTrie Text) (Trie Text) where
  tries trie := [trie]
  read := RootedTrie.read
  congr := fun trie _ _ same => same trie List.mem_cons_self

instance : Planted StoredRuleSet RuleSet where
  tries stored := [stored.trie]
  read := StoredRuleSet.read
  congr := fun stored before after same => by simp_all [StoredRuleSet.read]

instance : Planted StoredComposerRuleSet ComposerRuleSet where
  tries stored := [stored.hiragana, stored.katakana]
  read := StoredComposerRuleSet.read
  congr := fun stored before after same => by simp_all [StoredComposerRuleSet.read]

instance : Planted StoredRomanizer Romanizer where
  tries stored := stored.active :: Planted.tries stored.rules
  read := StoredRomanizer.read
  congr := fun stored before after same => by
    obtain ⟨own, rules⟩ := List.forall_mem_cons.1 same
    simp only [StoredRomanizer.read, own]
    rw [show stored.rules.read after = _ from Planted.congr stored.rules before after rules]
    rfl

instance : Planted StoredComposer Composer where
  tries stored := stored.hiragana :: stored.katakana :: Planted.tries stored.rules
  read := StoredComposer.read
  congr := fun stored before after same => by
    obtain ⟨own, same⟩ := List.forall_mem_cons.1 same
    obtain ⟨other, rules⟩ := List.forall_mem_cons.1 same
    simp only [StoredComposer.read, own, other]
    rw [show stored.rules.read after = _ from Planted.congr stored.rules before after rules]
    rfl

instance : Planted StoredConverter Converter where
  tries
    | .romanizer stored => Planted.tries stored
    | .composer stored => Planted.tries stored
  read stored forest := stored.read forest
  congr := fun stored before after same => by
    cases stored with
    | romanizer stored => exact congrArg _ (Planted.congr stored before after same)
    | composer stored => exact congrArg _ (Planted.congr stored before after same)

namespace Planted
variable {τ β : Type} [Planted τ β] {stored : τ} {before after forest : Forest Text} {content : β}

structure Lasts (stored : τ) (forest : Forest Text) (content : β) : Prop where
  lasting : ∀ trie ∈ tries stored, trie.Lasting forest
  read : read stored forest = content

theorem Lasts.keep (lasts : Lasts stored before content) (keeps : before.Keeps after) :
    Lasts stored after content where
  lasting := fun trie member => (lasts.lasting trie member).keep keeps
  read := by
    rw [← lasts.read]
    refine congr stored before after fun trie member => ?_
    obtain ⟨layout, stands⟩ := (lasts.lasting trie member).stands
    exact RootedTrie.read_keep stands keeps

theorem Lasts.part (lasts : Lasts stored forest content) {trie : RootedTrie Text}
    (member : trie ∈ tries stored) {own : Trie Text} (same : trie.read forest = own) :
    Lasts trie forest own :=
  ⟨List.forall_mem_singleton.2 (lasts.lasting trie member), same⟩

theorem lasts_trie {trie : RootedTrie Text} {content : Trie Text} :
    Lasts trie forest content ↔ trie.Lasting forest ∧ trie.read forest = content :=
  ⟨fun lasts => ⟨lasts.lasting trie List.mem_cons_self, lasts.read⟩,
    fun ⟨lasting, read⟩ => ⟨List.forall_mem_singleton.2 lasting, read⟩⟩

end Planted

open Planted (Lasts)

/-! ### Rule sets -/

theorem comes_publish_of_frozen {trie : Trie Text} (frozen : trie.frozen = true)
    (forest : Forest Text) :
    Steps.Comes Forest.Keeps forest (RootedTrie.publish trie) Lasts (.ok trie) := by
  have planted := RootedTrie.comes_publish trie forest
  rw [Trie.freeze_of_frozen frozen] at planted
  exact planted.weaken (fun _ => id) fun _ _ _ _ => Planted.lasts_trie.2

theorem StoredRuleSet.comes_publish {rules : RuleSet} (frozen : rules.trie.frozen = true)
    (forest : Forest Text) :
    Steps.Comes Forest.Keeps forest (publish rules) Lasts (.ok rules) := by
  refine (comes_publish_of_frozen frozen forest).bind
    (fun trie => .ok { rules with trie }) ?_
  rintro trie after _ _ lasts -
  exact .pure ⟨lasts.lasting, by rw [← lasts.read]; rfl⟩

theorem StoredComposerRuleSet.comes_publish {rules : ComposerRuleSet}
    (frozen : rules.hiragana.frozen = true ∧ rules.katakana.frozen = true) (forest : Forest Text) :
    Steps.Comes Forest.Keeps forest (publish rules) Lasts (.ok rules) := by
  refine (comes_publish_of_frozen frozen.1 forest).bind
    (fun hiragana => .ok { rules with hiragana }) ?_
  rintro hiragana between one _ lasts -
  refine (comes_publish_of_frozen frozen.2 between).bind
    (fun katakana => .ok { rules with hiragana := one, katakana }) ?_
  rintro katakana after other later lastsToo -
  have kept := lasts.keep later
  exact .pure ⟨List.forall_mem_cons.2 ⟨kept.lasting _ List.mem_cons_self, lastsToo.lasting⟩,
    by rw [← kept.read, ← lastsToo.read]; rfl⟩

/-! ### Converters -/

section
variable {forest : Forest Text} {trie : RootedTrie Text} {content : Trie Text}

theorem Planted.Lasts.comes_customize (lasts : Lasts trie forest content)
    (mapping : Option (Mapping Text)) :
    Steps.Comes Forest.Keeps forest (trie.customize mapping)
      (fun own after given => Lasts own after given.freeze)
      (content.overlay Resolver.ruled mapping) := by
  obtain ⟨lasting, rfl⟩ := Planted.lasts_trie.1 lasts
  exact (lasting.comes_customize mapping).weaken (fun _ => id) fun _ _ _ _ => Planted.lasts_trie.2

theorem Planted.Lasts.comes_lay (lasts : Lasts trie forest content)
    (mapping : Option (Mapping Text)) :
    Steps.Comes Forest.Keeps forest (trie.lay mapping)
      (fun laid after given => (∃ layout, after.Stands laid.root layout) ∧ laid.read after = given)
      (content.overlay Resolver.ruled mapping) := by
  obtain ⟨lasting, rfl⟩ := Planted.lasts_trie.1 lasts
  exact lasting.comes_lay mapping

end

namespace StoredRomanizer
variable {forest : Forest Text} {stored : StoredRomanizer} {romanizer : Romanizer}

theorem comes_create {kept : StoredRuleSet} {rules : RuleSet} (lasts : Lasts kept forest rules)
    (upcaseKatakana : Choice) (mapping : Option (Mapping Text)) :
    Steps.Comes Forest.Keeps forest (create kept upcaseKatakana mapping) Lasts
      (Romanizer.create rules upcaseKatakana mapping) := by
  have base : Lasts kept.trie forest rules.trie :=
    lasts.part (by simp [Planted.tries]) (by rw [← lasts.read]; rfl)
  refine (base.comes_customize mapping).bind _ ?_
  rintro own after given later active -
  have rest := lasts.keep later
  exact .pure ⟨List.forall_mem_cons.2 ⟨active.lasting own List.mem_cons_self, rest.lasting⟩,
    by rw [← rest.read, ← active.read]; rfl⟩

theorem lasts_active (lasts : Lasts stored forest romanizer) :
    Lasts stored.active forest romanizer.active :=
  lasts.part List.mem_cons_self (by rw [← lasts.read]; rfl)

theorem comes_pieces (lasts : Lasts stored forest romanizer) (mapping : Option (Mapping Text))
    (text : Text) :
    Steps.Comes Forest.Keeps forest (stored.pieces mapping text)
      (fun pieces _ expected => pieces = expected) (romanizer.pieces mapping text) := by
  unfold pieces Romanizer.pieces Trie.pieces
  split
  · exact .pure rfl
  · refine ((lasts_active lasts).comes_lay mapping).bind _ ?_
    rintro laid after given - ⟨-, rfl⟩ -
    exact .ok rfl (Std.Refl.refl after) rfl

theorem comes_convert (lasts : Lasts stored forest romanizer) (text : Text) (choice : Choice)
    (mapping : Option (Mapping Text)) :
    Steps.Comes Forest.Keeps forest (stored.convert text choice mapping)
      (fun report _ expected => report = expected)
      (.ok (romanizer.convert text choice mapping)) := by
  rw [Romanizer.convert_eq_told, convert]
  split
  · exact .pure rfl
  · refine (comes_pieces lasts mapping text).attempt.bind
      (fun pieces => .ok (romanizer.told choice pieces)) ?_
    rintro pieces after _ later agree -
    obtain rfl := agree.eq
    exact .ok rfl (Std.Refl.refl after) (by rw [← (lasts.keep later).read]; rfl)

end StoredRomanizer

namespace StoredComposer
variable {forest : Forest Text} {stored : StoredComposer} {composer : Composer}

theorem comes_create {kept : StoredComposerRuleSet} {rules : ComposerRuleSet}
    (lasts : Lasts kept forest rules) (mapping : Option (Mapping Text)) :
    Steps.Comes Forest.Keeps forest (create kept mapping) Lasts
      (Composer.create rules mapping) := by
  have base : Lasts kept.hiragana forest rules.hiragana :=
    lasts.part (by simp [Planted.tries]) (by rw [← lasts.read]; rfl)
  refine (base.comes_customize mapping).bind _ ?_
  rintro hiragana between given later own -
  have rest := lasts.keep later
  have other : Lasts kept.katakana between rules.katakana :=
    rest.part (by simp [Planted.tries]) (by rw [← rest.read]; rfl)
  refine (other.comes_customize mapping).bind _ ?_
  rintro katakana after givenToo further ownToo -
  have own := own.keep further
  have rest := rest.keep further
  refine .pure ⟨?_, by rw [← rest.read, ← own.read, ← ownToo.read]; rfl⟩
  exact List.forall_mem_cons.2 ⟨own.lasting hiragana List.mem_cons_self,
    List.forall_mem_cons.2 ⟨ownToo.lasting katakana List.mem_cons_self, rest.lasting⟩⟩

theorem lasts_scripts (lasts : Lasts stored forest composer) :
    Lasts stored.hiragana forest composer.hiragana ∧
      Lasts stored.katakana forest composer.katakana :=
  ⟨lasts.part (by simp [Planted.tries]) (by rw [← lasts.read]; rfl),
    lasts.part (by simp [Planted.tries]) (by rw [← lasts.read]; rfl)⟩

theorem comes_pieces (lasts : Lasts stored forest composer) (mapping : Option (Mapping Text))
    (text : Text) :
    Steps.Comes Forest.Keeps forest (stored.pieces mapping text)
      (fun pieces _ expected => pieces = expected) (composer.pieces mapping text) := by
  obtain ⟨hiragana, katakana⟩ := lasts_scripts lasts
  unfold pieces Composer.pieces
  split
  · exact .pure rfl
  · refine (hiragana.comes_lay mapping).bind _ ?_
    rintro laid between given later ⟨⟨layout, stands⟩, rfl⟩ -
    refine ((katakana.keep later).comes_lay mapping).bind _ ?_
    rintro other after _ further ⟨-, rfl⟩ -
    -- the first trie is read only after rules were laid over the second
    have same : laid.read after = laid.read between := RootedTrie.read_keep stands further
    exact .ok rfl (Std.Refl.refl after) (by rw [same])

theorem comes_convert (lasts : Lasts stored forest composer) (text : Text)
    (mapping : Option (Mapping Text)) :
    Steps.Comes Forest.Keeps forest (stored.convert text mapping)
      (fun report _ expected => report = expected) (.ok (composer.convert text mapping)) := by
  rw [Composer.convert_eq_told, convert]
  split
  · exact .pure rfl
  · refine (comes_pieces lasts mapping text).attempt.bind
      (fun pieces => .ok (Composer.told pieces)) ?_
    rintro pieces after _ - agree -
    obtain rfl := agree.eq
    exact .pure rfl

end StoredComposer

theorem StoredConverter.comes_convert {forest : Forest Text} {stored : StoredConverter}
    {converter : Converter} (lasts : Lasts stored forest converter) (asked : Conversion) :
    Steps.Comes Forest.Keeps forest (stored.convert asked)
      (fun report _ expected => report = expected) (.ok (converter.convert asked)) := by
  cases stored with
  | romanizer stored =>
      obtain ⟨lasting, rfl⟩ := lasts
      exact StoredRomanizer.comes_convert ⟨lasting, rfl⟩ _ _ _
  | composer stored =>
      obtain ⟨lasting, rfl⟩ := lasts
      exact StoredComposer.comes_convert ⟨lasting, rfl⟩ _ _

end Honji
