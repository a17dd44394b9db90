import Mapsmith.Text.Character
import Mapsmith.Text.Case
import Mapsmith.Text.Quoted

/-!
# Truth values as text

The usual spellings of yes and no, whatever their case and the blanks around them.
-/

namespace Mapsmith.Text

/-- The spellings of truth. -/
def trueWords : List String := ["true", "1", "yes", "y", "on"]

/-- The spellings of falsehood. -/
def falseWords : List String := ["false", "0", "no", "n", "off"]

/-- The truth value that a text spells. -/
def truth? (s : String) : Option Bool :=
  let word := casefold (trim s)
  if word ∈ trueWords then some true
  else if word ∈ falseWords then some false
  else none

/-- What is said of a text that spells no truth value. -/
def noTruthMessage (s : String) : String :=
  "Cannot parse " ++ quote s ++ " as a boolean"

end Mapsmith.Text
