import Mapsmith.Program.Bases
import Mapsmith.Program.Iteration
import Mapsmith.Text.Identifier

/-!
# What a body says of its class

Some names are more than what a class holds under them. They tell which module the class counts as one of and by
which path it is known there, and for which members its values have places of their own. A class holds nothing
else under the name of such a place, and two classes with places do not go together as bases. A class that is
extended may want to know of it.
-/

namespace Mapsmith.Program

/-- What a body says of its class, beside what the class holds. -/
structure Particulars where
  /-- The module that the class counts as one of. It is empty if that is no text. -/
  module : String
  /-- The path by which the class is known. -/
  path : String
  /-- The members for which its values have places, if that is told. -/
  places : Option (List String)
  /-- What the class holds. -/
  attributes : List (String × Attribute)

namespace Particulars

/-! ### Names -/

/-- The name under which a body tells the module of its class. -/
def moduleName : String := "__module__"

/-- The name under which a body tells the path of its class. -/
def pathName : String := "__qualname__"

/-- The name under which a body tells the places. -/
def placesName : String := "__slots__"

/-- The name that stands for the cell in which a class is kept; a body has no say in it. -/
def cellName : String := "__classcell__"

/-- The name under which a class wants to know of the classes that extend it. -/
def subclassName : String := "__init_subclass__"

/-! ### Module and path -/

/-- The module that a class counts as one of, unless its body tells another one. -/
def moduleIn (module : String) (held : List (String × Attribute)) : String :=
  match held.lookup moduleName with
  | some a => a.toObject.text?.getD ""
  | none => module

/-- The path by which a class is known, unless its body tells another one, which has to be a text. -/
def pathIn (path : String) (held : List (String × Attribute)) : Run String := do
  match held.lookup pathName with
  | none => return path
  | some a => match a.toObject.text? with
    | some path => return path
    | none =>
      Run.refuse (.other ("type __qualname__ must be a str, not " ++ (← get).typeName a.toObject))

/-! ### Places -/

/-- The names that are told of places. A text is the name of one. -/
def namesTold (ev : Evaluator) (o : Object) : Run (List String) := do
  let items ← if o.text?.isSome then pure [o] else Run.parts ev o
  items.mapM fun o => do
    match o.text? with
    | some name =>
      if Text.isIdentifier name then return name
      else Run.refuse (.other "__slots__ must be identifiers")
    | none =>
      Run.refuse (.other ("__slots__ items must be strings, not " ++ Text.quote ((← get).typeName o)))

/-- Checks that the values of a class can have places of these names. -/
def checkPlaces (m : Memory) (b : Bases) (names : List String) : Run Unit := do
  if !names.isEmpty then
    match b.classes.find? (Bases.isVarying m) with
    | some c =>
      Run.refuse (.other ("nonempty __slots__ not supported for subtype of " ++ Text.quote (m.nameOf c)))
    | none => pure ()
  let isTaken (name : String) : Bool :=
    (names.filter (· = name)).length > 1 || (name ∈ names && b.classes.any fun c => (m.line c).any (Bases.holdsPlace m name))
  match optionalPlaces.find? isTaken with
  | some name => Run.refuse (.other (name ++ " slot disallowed: we already got one"))
  | none => pure ()

/-- The places of a class, under the names by which the class holds them. -/
def placesIn (ev : Evaluator) (m : Memory) (owner : String) (b : Bases) (held : List (String × Attribute))
    (isAnnotated : Bool) : Run (Option (List String)) := do
  match held.lookup placesName with
  | none => return none
  | some a =>
    let names ← namesTold ev a.toObject
    checkPlaces m b names
    let names := names.map (keptName owner)
    let own := names.filter (· ∉ optionalPlaces)
    let others := [moduleName] ++ (if isAnnotated then ["__annotations__"] else [])
      ++ if b.isIndirect then ["__orig_bases__"] else []
    let isHeld (name : String) : Bool := (held.lookup name).isSome || name ∈ others
    if own.any fun name => isHeld name && name ∉ [pathName, cellName] then throw .badValue
    return some names

/-- What a class of a name holds for a place. -/
def placeAttribute (owner name : String) : String × Attribute :=
  (name, .object (.other "member_descriptor"
    ("<member " ++ Text.quote name ++ " of " ++ Text.quote owner ++ " objects>")))

/-! ### Everything -/

/-- What the body of a class of a name says of it, given where it stands and what it leaves behind. -/
def told (ev : Evaluator) (module path owner : String) (b : Bases) (held : List (String × Attribute))
    (isAnnotated : Bool) : Run Particulars := do
  let m ← get
  let places ← placesIn ev m owner b held isAnnotated
  let path ← pathIn path held
  if (held.lookup cellName).isSome then
    Run.refuse (.other "type __classcell__ must be a nonlocal cell")
  let own := (places.getD []).filter (· ∉ optionalPlaces)
  return {
    module := moduleIn module held
    path
    places
    attributes := (held.filter fun (name, _) => name ∉ [moduleName, pathName])
      ++ own.eraseDups.map (placeAttribute owner) }

/-! ### Being extended -/

/-- The classes that a class inherits from and that come to know that it extends them. The first class of the
program that wants to know keeps it from those after it, and has to be able to. -/
def hearers (line : List ClassId) : Run (List ClassId) := do
  let m ← get
  let wish? (c : ClassId) : Option Attribute := match c with
    | .program _ => m.own? c subclassName
    | .library _ => none
  match line.tail.findSome? wish? with
  | none | some (.function _) | some (.object (.cls _)) =>
    return line.tail.takeWhile fun c => (wish? c).isNone
  | some a => Run.refuse (.notCallable (m.typeName a.toObject))

end Particulars

end Mapsmith.Program
