import Honji.Trie.Mapping
import Honji.Trie.Match

/-!
Matching under a trie with a caller's own rules laid over it.
-/

namespace Honji

def Trie.pieces {α : Type} [Token α] (resolve : Resolver α) (base : Trie α)
    (mapping : Option (Mapping α)) (text : Text) : Except Failure (List (Match α)) :=
  if text.isEmpty then .ok []
  else do
    let active ← base.overlay resolve mapping
    return active.tokenize text

end Honji
