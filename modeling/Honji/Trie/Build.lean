import Honji.Trie.Items
import Honji.Trie.Mapping

/-!
Building a trie step by step. A step that fails leaves the trie as the steps before it made it.
-/

namespace Honji

abbrev Build := ExceptT Failure (StateM (Trie Text))

namespace Build

def change (step : Trie Text → Except Failure (Trie Text)) : Build Unit := fun trie =>
  match step trie with
  | .ok changed => (.ok (), changed)
  | .error failure => (.error failure, trie)

def root : Build (Node Text) := do
  return (← get).root

def add (path : Path) (symbol : Symbol) (token : Text) : Build Unit :=
  change (·.add path symbol token)

def attach (path : Path) (symbol : Symbol) (child : Node Text) : Build Unit :=
  change (·.attach path symbol child)

def insert (path : Path) (token : Text) : Build Unit :=
  change (·.insert path token)

def insertNew (path : Path) (token : Text) : Build Unit := do
  if ((← get).find? path).any (·.entry.terminal.taken) then
    throw (.duplicateKey (path.getLastD []) path.dropLast)
  insert path token

def addAll (rules : List (Text × Text)) : Build Unit :=
  rules.forM fun rule => add [] rule.1 rule.2

def freeze : Build Unit :=
  modify Trie.freeze

def build (steps : Build Unit) (trie : Trie Text) : Except Failure (Trie Text) :=
  match steps trie with
  | (.ok (), built) => .ok built
  | (.error failure, _) => .error failure

/--
Runs computations one after another, each on what the one before it left, whether that failed or
not. Answers what each came to and how many nodes there were then.
-/
def runAll {α : Type} : List (Build α) → Trie Text → List (Except Failure α × Nat) × Trie Text
  | [], trie => ([], trie)
  | steps :: rest, trie =>
      let (outcome, next) := steps trie
      let (outcomes, last) := runAll rest next
      ((outcome, next.size) :: outcomes, last)

end Build
end Honji
