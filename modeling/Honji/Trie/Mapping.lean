import Honji.Table
import Honji.Trie.Basic

/-!
Tries laid over one another, and the forms in which a caller gives rules of his own.
-/

namespace Honji

def Resolver.later {α : Type} : Resolver α := fun _ second => second.token

def Resolver.earlier {α : Type} : Resolver α := fun first _ => first.token

/-- The second token counts where a rule put it; a token that only lies on the way does not. -/
def Resolver.ruled {α : Type} : Resolver α := fun first second =>
  if second.terminal.taken then second.token else first.token

def Resolver.joined {α : Type} [Append α] : Resolver α := fun first second =>
  first.token ++ second.token

/-- A path as a caller writes it: as a text with a symbol for each character, or in symbols. -/
inductive Spelling where
  | text (text : Text)
  | symbols (path : Path)
  deriving DecidableEq

def Spelling.path : Spelling → Path
  | .text written => Path.ofText written
  | .symbols steps => steps

inductive Mapping (α : Type) where
  | sequence (rules : List (Spelling × α))
  | table (rules : Table Spelling α)
  | trie (rules : Trie α)

namespace Trie
variable {α : Type}

def insertAll (trie : Trie α) (rules : List (Path × α)) : Except Failure (Trie α) :=
  rules.foldlM (fun trie rule => trie.insert rule.1 rule.2) trie

def ofRules [Token α] (caseInsensitive : Bool) (rules : List (Path × α)) :
    Except Failure (Trie α) :=
  (empty caseInsensitive Token.blank).insertAll rules

def mergeWith (resolve : Resolver α) (trie other : Trie α) : Except Failure (Trie α) :=
  if trie.frozen then .error (.frozenNode [])
  else .ok { trie with root := trie.root.merge resolve other.root }

/--
A new trie over which the given ones are laid in turn. It takes its manner of looking symbols up
from the first of them, unless one is named.
-/
def merged [Token α] (resolve : Resolver α) (tries : List (Trie α))
    (caseInsensitive : Choice) : Trie α :=
  let base : Trie α := match tries with
    | [] => empty (caseInsensitive.getD false) Token.blank
    | first :: _ => empty (caseInsensitive.getD first.caseInsensitive) first.placeholder
  { base with root := tries.foldl (fun root trie => root.merge resolve trie.root) base.root }

end Trie

namespace Mapping
variable {α : Type}

def toTrie [Token α] (caseInsensitive : Bool) : Mapping α → Except Failure (Trie α)
  | .sequence rules => Trie.ofRules caseInsensitive (rules.map fun rule => (rule.1.path, rule.2))
  | .table rules =>
      Trie.ofRules caseInsensitive (rules.entries.map fun rule => (rule.1.path, rule.2))
  | .trie rules => .ok rules

end Mapping

/--
A trie with a caller's rules laid over it; without a mapping it is the trie itself. A new trie is
never frozen.
-/
def Trie.overlay {α : Type} [Token α] (resolve : Resolver α) (base : Trie α)
    (mapping : Option (Mapping α)) : Except Failure (Trie α) :=
  match mapping with
  | none => .ok base
  | some mapping => do
      let rules ← mapping.toTrie base.caseInsensitive
      return Trie.merged resolve [base, rules] base.caseInsensitive

end Honji
