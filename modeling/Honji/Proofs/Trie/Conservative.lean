import Honji.Proofs.Trie.Echoing
import Honji.Trie.Pieces
import Mathlib.Data.List.Infix

/-!
Rules laid over a trie that make no difference to a text. If the ways to the rules are in the trie
already, a walk through the text meets another answer than before only where a rule ends; so a text
in which no rule occurs is cut into the same pieces, with the same tokens.
-/

namespace Honji
namespace Trie
variable {α : Type}

/-- The ways to all rules are in a trie already, up to their last steps. -/
def Grounds (base : Trie α) (rules : List (Path × α)) : Prop :=
  ∀ rule ∈ rules, ∀ path, path ≠ [] → path <+: rule.1 → path ≠ rule.1 → base.find? path ≠ none

def Misses (base : Trie α) (rules : List (Path × α)) (text : Text) : Prop :=
  ∀ rule ∈ rules, ¬ rule.1.map base.normalize <:+: (Path.ofText text).map base.normalize

variable {base layer : Trie α} {rules : List (Path × α)}

theorem Grounds.entryAt?_ne_none (grounds : base.Grounds rules) {path : Path} (filled : path ≠ [])
    {rule : Path × α} (member : rule ∈ base.normalized rules) (ahead : path <+: rule.1)
    (proper : path ≠ rule.1) : base.root.entryAt? path ≠ none := by
  obtain ⟨⟨written, token⟩, listed, rfl⟩ := List.mem_map.1 member
  obtain ⟨rest, whole⟩ := ahead
  -- the beginning of the rule as it is looked up comes from a beginning of the rule as written
  obtain ⟨front, back, rfl, rfl, rfl⟩ := List.map_eq_append_iff.1 whole.symm
  have known : base.find? front ≠ none := by
    refine grounds _ listed front (by simpa using filled) (List.prefix_append front back) ?_
    intro same
    exact proper (congrArg (List.map base.normalize) same)
  exact mt find?_eq_none_iff.2 known

variable [Token α]

theorem Grounds.answer_laid (grounds : base.Grounds rules) {path : Path} (filled : path ≠ [])
    (stands : layer.root.entryAt? path =
      entryAfter? Token.blank (base.normalized rules) none path)
    (unruled : path ∉ (base.normalized rules).map Prod.fst) :
    ((laid Resolver.ruled base layer).root.entryAt? path).map Entry.answer =
      (base.root.entryAt? path).map Entry.answer := by
  have none : lastToken? (base.normalized rules) path = none := by
    by_contra given
    obtain ⟨token, last⟩ := Option.ne_none_iff_exists'.1 given
    exact unruled (List.mem_map_of_mem (exists_rule_of_lastToken? last))
  rw [Trie.answer_laid filled stands, none]
  by_cases leads : (base.normalized rules).any (path <+: ·.1) = true
  · obtain ⟨rule, member, ahead⟩ := List.any_eq_true.1 leads
    have proper : path ≠ rule.1 := fun same => unruled (same ▸ List.mem_map_of_mem member)
    obtain ⟨entry, there⟩ := Option.ne_none_iff_exists'.1
      (grounds.entryAt?_ne_none filled member (of_decide_eq_true ahead) proper)
    rw [there]
    rfl
  · rw [if_neg leads, Option.or_none]

theorem Grounds.tokenize_laid (grounds : base.Grounds rules) {text : Text}
    (misses : base.Misses rules text)
    (stands : ∀ path, path ≠ [] → layer.root.entryAt? path =
      entryAfter? Token.blank (base.normalized rules) none path) :
    (laid Resolver.ruled base layer).tokenize text = base.tokenize text := by
  refine Match.eq_of_akin (akin_tokenize (fun _ => rfl) fun part filled inside => ?_)
  refine leadsAkin_of_entries (rel_akin_iff.2 ?_)
  have below : (Path.ofText part).map base.normalize ≠ [] := by simpa using filled
  refine grounds.answer_laid below (stands _ below) fun ruled => ?_
  obtain ⟨_, member, same⟩ := List.mem_map.1 ruled
  obtain ⟨rule, listed, rfl⟩ := List.mem_map.1 member
  have ends : rule.1.map base.normalize = (Path.ofText part).map base.normalize := same
  refine misses rule listed ?_
  rw [ends]
  exact (inside.map _).map _

/--
A caller's rules make no difference to a text in which none of them occurs, if the ways to them are
in the trie already: the text is cut into the same pieces, with the same tokens and reports.
-/
theorem overlay_conservative (base : Trie α) {mapping : Mapping α} {rules : List (Path × α)}
    {text : Text} (listed : mapping.rules? = some rules) (filled : ∀ rule ∈ rules, rule.1 ≠ [])
    (grounds : base.Grounds rules) (misses : base.Misses rules text) :
    base.pieces Resolver.ruled none text = .ok (base.tokenize text) ∧
      base.pieces Resolver.ruled (some mapping) text = .ok (base.tokenize text) := by
  obtain ⟨root, built, stands⟩ := ofRules_eq base.caseInsensitive filled
  let layer : Trie α := ⟨root, base.caseInsensitive, Token.blank, false⟩
  have given : base.overlay Resolver.ruled (some mapping) = .ok (laid Resolver.ruled base layer) := by
    rw [overlay_some, toTrie_of_rules? listed, built]
    rfl
  have same : (laid Resolver.ruled base layer).tokenize text = base.tokenize text :=
    grounds.tokenize_laid misses stands
  cases text with
  | nil => exact ⟨rfl, rfl⟩
  | cons character rest =>
      refine ⟨rfl, ?_⟩
      rw [← same, pieces, given]
      rfl

theorem overlay_conservative_letters :
    let letters : Trie Text := ⟨⟨⟨[], false⟩, .cons "k".toList ⟨[], false⟩
      (.cons "a".toList ⟨"か".toList, true⟩ .nil .nil) .nil, by decide⟩, true, [], false⟩
    let rules := [(Path.ofText "KY".toList, "きゃ".toList)]
    let mapping := Mapping.sequence [(.text "KY".toList, "きゃ".toList)]
    mapping.rules? = some rules ∧ (∀ rule ∈ rules, rule.1 ≠ []) ∧ letters.Grounds rules ∧
      letters.Misses rules "yKak".toList ∧
      letters.pieces Resolver.ruled none "yKak".toList = .ok (letters.tokenize "yKak".toList) ∧
      letters.pieces Resolver.ruled (some mapping) "yKak".toList =
        .ok (letters.tokenize "yKak".toList) := by
  intro letters rules mapping
  have filled : ∀ rule ∈ rules, rule.1 ≠ [] := by decide
  have grounds : letters.Grounds rules := by
    -- of the two beginnings of the rule that are not empty, one is the rule itself
    have begun : ∀ rule ∈ rules, ∀ path ∈ rule.1.inits, path ≠ [] → path ≠ rule.1 →
        letters.find? path ≠ none := by decide
    exact fun rule listed path filled ahead =>
      begun rule listed path ((List.mem_inits _ _).2 ahead) filled
  have misses : letters.Misses rules "yKak".toList := by
    unfold Misses
    decide +kernel
  exact ⟨rfl, filled, grounds, misses, overlay_conservative letters rfl filled grounds misses⟩

end Trie
end Honji
