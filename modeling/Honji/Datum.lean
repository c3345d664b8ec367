import Honji.Choice
import Honji.Text.Quoted

/-!
Values whose kind is not known beforehand: what callers pass where a text is expected, and what
hand-built tries hold as tokens. Choices that callers may leave open are shown as such values.
-/

namespace Honji

inductive Datum where
  | null
  | truth (value : Bool)
  | integer (value : Int)
  | text (value : Text)
  | list (items : List Datum)
  | record (fields : List (Text × Datum))

instance : Inhabited Datum := ⟨.null⟩

def Text.listed (texts : List Text) : Text :=
  List.intercalate [',', ' '] texts

namespace Datum

mutual

def shown : Datum → Text
  | .null => "None".toList
  | .truth true => "True".toList
  | .truth false => "False".toList
  | .integer value => Text.ofInt value
  | .text value => value.quoted
  | .list items => '[' :: Text.listed (shownItems items) ++ [']']
  | .record fields => Char.ofNat 0x7B :: Text.listed (shownFields fields) ++ [Char.ofNat 0x7D]

def shownItems : List Datum → List Text
  | [] => []
  | item :: rest => item.shown :: shownItems rest

def shownFields : List (Text × Datum) → List Text
  | [] => []
  | (name, value) :: rest => (name.quoted ++ ':' :: ' ' :: value.shown) :: shownFields rest

end

/-- A value as a number; a truth value counts as one if it is true and as zero if it is not. -/
def number? : Datum → Option Int
  | .integer value => some value
  | .truth value => some value.toNat
  | _ => none

def append : Datum → Datum → Datum
  | .text first, .text second => .text (first ++ second)
  | .list first, .list second => .list (first ++ second)
  | first, second =>
      match first.number?, second.number? with
      | some one, some other => .integer (one + other)
      | _, _ => first

instance : Append Datum := ⟨append⟩

def written : Datum → Text
  | .text value => value
  | other => other.shown

def ofChoice : Choice → Datum
  | none => .null
  | some taken => .truth taken

def mapText (change : Text → Text) : Datum → Datum
  | .text value => .text (change value)
  | other => other

end Datum
end Honji
