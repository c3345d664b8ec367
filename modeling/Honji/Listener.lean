import Honji.Composer.Converter
import Honji.Romanization.Converter

/-!
Conversions as they run. A text is written piece by piece, and a listener, if there is one, is told
of each piece for which there was no rule before anything is written for it.
-/

namespace Honji

abbrev Listener (σ : Type) := Event Text → σ → σ

abbrev ListenedM (σ : Type) := ExceptT Failure (StateM σ)

variable {σ : Type}

namespace Match

def tell (listener : Option (Listener σ)) (converter : Text) (piece : Match Text) :
    ListenedM σ Unit := do
  if let some event := piece.event? converter then
    if let some hear := listener then modify (hear event)

/-- Cuts a text as `scan` does; each piece is told and written before the next one is made. -/
def transcribe (head : Nat → Char → Text → Match Text) (listener : Option (Listener σ))
    (converter : Text) (written : Match Text → Text) : Nat → Nat → Text → ListenedM σ Text
  | _, _, [] => return []
  | skip + 1, position, _ :: rest =>
      transcribe head listener converter written skip (position + 1) rest
  | 0, position, character :: rest => do
      let piece := head position character rest
      piece.tell listener converter
      return written piece ++
        (← transcribe head listener converter written (piece.source.length - 1) (position + 1) rest)

end Match

def Romanizer.transcribe (romanizer : Romanizer) (listener : Option (Listener σ)) (text : Text)
    (choice : Choice) (mapping : Option (Mapping Text)) : ListenedM σ Text := do
  if text.isEmpty then return []
  let active ← (romanizer.active.overlay Resolver.ruled mapping : Except Failure (Trie Text))
  Match.transcribe active.headMatch listener romanizer.name
    (if romanizer.capitalizes choice then capitalized else Match.token) 0 0 text

def Composer.transcribe (composer : Composer) (listener : Option (Listener σ)) (text : Text)
    (mapping : Option (Mapping Text)) : ListenedM σ Text := do
  if text.isEmpty then return []
  let hiragana ← (composer.hiragana.overlay Resolver.ruled mapping : Except Failure (Trie Text))
  let katakana ← (composer.katakana.overlay Resolver.ruled mapping : Except Failure (Trie Text))
  Match.transcribe (headMatch hiragana katakana) listener name Match.token 0 0 text

end Honji
