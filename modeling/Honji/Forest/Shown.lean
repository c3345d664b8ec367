import Honji.Forest.Trie
import Honji.Trie.Items

/-!
Nodes and tries as messages show them.
-/

namespace Honji

def Cell.shown (cell : Cell Datum) : Text :=
  let key := match cell.key with
    | some symbol => symbol.quoted
    | none => Datum.null.shown
  "TrieNode(key=".toList ++ key ++ ", value=".toList ++ cell.token.shown ++
    ", children=".toList ++ Text.ofNat cell.children.length ++ [')']

def RootedTrie.shown {α : Type} (trie : RootedTrie α) (forest : Forest α) : Text :=
  "Trie(nodes=".toList ++ Text.ofNat (trie.read forest).size ++ ", case_insensitive=".toList ++
    (Datum.ofChoice trie.caseInsensitive).shown ++ ", frozen=".toList ++
    (Datum.truth (trie.frozen forest)).shown ++ [')']

end Honji
