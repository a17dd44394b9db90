import Mapsmith.Conversion
import Mapsmith.TypeGraph

/-!
# The index of directives

All directives of a pass together. The index knows which routine maps a pair of types, and which
directives cannot stand beside each other: because they map the same pair, because one is the way
back of another, or because both would define a routine of one name in one namespace. Directives
are told apart by position, since two of them may be equal.
-/

namespace Mapsmith

/-- The directives of a pass, over its type graph. -/
structure DirectiveIndex where
  /-- The directives, their names resolved. -/
  directives : List Directive
  /-- The types of the pass. -/
  graph : TypeGraph

namespace DirectiveIndex

variable (index : DirectiveIndex)

/-! ### Routines -/

/-- The name of a type within its module, as far as it can be told. -/
def simpleName (name : String) : String :=
  match index.graph.get? name with
  | some t => t.name
  | none => lastPart name

/-- The namespace whose unit holds a directive's routines: the module of its target. -/
def home (d : Directive) : String :=
  match index.graph.get? d.target with
  | some t => t.module
  | none => allButLastPart d.target

/-- The position of the first directive for a pair. -/
def position? (source target : String) : Option Nat :=
  index.directives.findIdx? fun d => d.source == source && d.target == target

/-- The first directive for a pair. -/
def directiveFor (source target : String) : Option Directive :=
  index.directives.find? fun d => d.source == source && d.target == target

/-- The first two-way directive whose way back is a pair. -/
def reverseFor (source target : String) : Option Directive :=
  index.directives.find? fun d => d.bidirectional.isOn && d.target == source && d.source == target

/-- The routine that a directive defines for a pair, directly or as its way back. -/
def routineFor (source target : String) : Option RoutineRef :=
  ((index.directiveFor source target).or (index.reverseFor source target)).map fun d =>
    { name := RoutineName.forward (index.simpleName source) (index.simpleName target)
      source, target, home := index.home d }

/-- Does a directive map an enum? -/
def mapsEnum (d : Directive) : Bool :=
  (index.graph.get? d.source).any (·.kind == .enum)

/-- The public routines a directive defines. -/
def routineNames (d : Directive) : List String :=
  let source := index.simpleName d.source
  let target := index.simpleName d.target
  RoutineName.forward source target ::
    ((if d.bidirectional.isOn then [RoutineName.forward target source] else [])
      ++ (if d.update.isOn && !index.mapsEnum d then [RoutineName.update source target] else [])
      ++ (if d.projection.isOn && !index.mapsEnum d then [RoutineName.projection source target] else []))

/-! ### Conflicts -/

/-- The directives with their positions. -/
def numbered : List (Nat × Directive) :=
  index.directives.zipIdx.map fun (d, i) => (i, d)

/-- The clash of a directive with others for the same pair. -/
def samePairClash (d : Directive) : Option String :=
  let count := index.directives.countP (·.pair == d.pair)
  if count > 1 then some (toString count ++ " directives for the same pair") else none

/-- The clash of the directive at a position with the way back of a two-way directive, itself
included. Two-way directives are gone through in order, and for each of them the directives that
map its way back. -/
def reverseClash (position : Nat) : Option String :=
  index.numbered.findSome? fun (p, d) =>
    if d.bidirectional.isOn then
      (index.numbered.filter fun (_, e) => e.pair == (d.target, d.source)).findSome? fun (o, e) =>
        if o = position then some ("reverse of bidirectional mapping '" ++ d.describe ++ "'")
        else if p = position then some ("reverse pair also declared as '" ++ e.describe ++ "'")
        else none
    else none

/-- Namespace and name of the routines a directive defines. -/
def definitions (d : Directive) : List (String × String) :=
  (index.routineNames d).map fun name => (index.home d, name)

/-- The clash of the directive at a position with others that define a routine of the same name in
the same namespace; the first such name counts. -/
def routineClash (position : Nat) (d : Directive) : Option String :=
  let shared := (index.definitions d).filter fun key =>
    index.numbered.any fun (i, e) => i ≠ position && key ∈ index.definitions e
  (Text.sortByKey (fun key : String × String => [key.1, key.2]) shared).head?.map fun (home, name) =>
    "routine '" ++ name ++ "' in '" ++ home ++ "' generated more than once"

/-- Why the directive at a position cannot stand beside another one, if it cannot. -/
def conflict (position : Nat) : Option String :=
  match index.directives[position]? with
  | none => none
  | some d =>
    ((index.samePairClash d).or (index.reverseClash position)).or (index.routineClash position d)

end DirectiveIndex

end Mapsmith
