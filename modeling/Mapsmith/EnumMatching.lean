import Mapsmith.Correspondence
import Mapsmith.Text.Case

/-!
# Matching enum values

Each value of the source enum looks for its counterpart in three steps: the same value, then the
first value equal to it up to case, then another member of an equivalence group that names it. A
value without a counterpart stays in the table without one.
-/

namespace Mapsmith.EnumMatching

/-- The groups of values that count as equal unless a configuration says otherwise. -/
def defaultGroups : List (List String) :=
  [["None", "Unknown", "Default"]]

/-- The first target value with a case folding. -/
def firstFolded (targets : List String) (folded : String) : Option String :=
  targets.find? (Text.casefold · == folded)

/-- The first group, among those that name the value, with another member present in the target;
its members are tried in order. -/
def equivalent (groups : List (List String)) (targets : List String) (value : String) :
    Option String :=
  let key := Text.casefold value
  groups.findSome? fun group =>
    let members := group.map Text.casefold
    if key ∈ members then
      members.findSome? fun other => if other = key then none else firstFolded targets other
    else none

/-- The counterpart of one value. -/
def matchValue (groups : List (List String)) (targets : List String) (value : String) :
    EnumValueMapping :=
  if value ∈ targets then ⟨value, some value, some .exact⟩
  else match firstFolded targets (Text.casefold value) with
    | some t => ⟨value, some t, some .caseInsensitive⟩
    | none => match equivalent groups targets value with
      | some t => ⟨value, some t, some .equivalence⟩
      | none => ⟨value, none, none⟩

/-- The table of counterparts, one entry for every source value. -/
def matchValues (groups : List (List String)) (sources targets : List String) :
    List EnumValueMapping :=
  sources.map (matchValue groups targets)

end Mapsmith.EnumMatching
