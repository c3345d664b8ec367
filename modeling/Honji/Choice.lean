/-!
Choices between yes and no that may be left open. An open choice counts as no, but it is kept
apart from a no that was said.
-/

namespace Honji

abbrev Choice := Option Bool

namespace Choice

/-- What a choice comes to: one that was left open counts as no. -/
def taken (choice : Choice) : Bool :=
  choice.getD false

def either (first second : Choice) : Choice :=
  if first.taken then first else second

@[simp] theorem taken_some (value : Bool) : taken (some value) = value := rfl

@[simp] theorem taken_none : taken none = false := rfl

@[simp] theorem taken_either (first second : Choice) :
    (first.either second).taken = (first.taken || second.taken) := by
  cases said : first.taken <;> simp [either, said]

end Choice
end Honji
