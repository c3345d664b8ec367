import Honji.Registry

/-!
Transliteration of whole texts with the converters that are kept.
-/

namespace Honji
namespace Transliteration

def toRomaji (text : Text) (method : Datum) (upcaseKatakana : Choice)
    (mapping : Option (Mapping Text)) : RegistryM Text := do
  let romanizer ← Registry.romanizer (← Method.parse method)
  (romanizer.content.convert text upcaseKatakana mapping).outcome

def toKana (text : Text) (obsolete : Bool) (mapping : Option (Mapping Text)) :
    RegistryM Text := do
  let composer ← Registry.composer obsolete
  (composer.content.convert text mapping).outcome

def toHiragana (text : Text) (passRomaji obsolete : Bool) : RegistryM Text := do
  let shifted := Kana.toHiragana text
  if text.isEmpty ∨ passRomaji then return shifted
  toKana (Text.lower shifted) obsolete none

def toKatakana (text : Text) (passRomaji obsolete : Bool) : RegistryM Text := do
  if text.isEmpty ∨ passRomaji then return Kana.toKatakana text
  return Kana.toKatakana (← toKana (Text.upper text) obsolete none)

end Transliteration
end Honji
