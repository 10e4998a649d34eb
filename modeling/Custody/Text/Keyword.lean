/-!
# Keywords

A setting is chosen by a keyword, and letter case does not matter. Only ASCII letters are
folded: no keyword in use has a letter that any character outside ASCII folds onto, so folding
the rest of Unicode would not make one more text match.
-/

namespace Custody.Text

/-- The value paired with the keyword that `text` spells in any letter case, if one does. -/
def keyword? {α : Type} (choices : List (String × α)) (text : String) : Option α :=
  (choices.find? fun choice => choice.1 == text.toLower).map (·.2)

end Custody.Text
