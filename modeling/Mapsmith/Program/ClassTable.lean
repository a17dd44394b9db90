import Mapsmith.Program.Bases
import Mapsmith.Program.Parts

/-!
# What classes hold

The table of all that a class of a program holds, under which name: what its body has given names to, and what
comes with every class, with one whose values have places for whatever else they are given, with one that can
leave methods open or type variables, and with a dataclass. What a body gives a name stays as it is.
-/

namespace Mapsmith.Program

namespace Run

/-- What a dataclass says of itself: its parameters, and that they have types. -/
def signature (m : Memory) (c : ClassId) (shape : DataclassShape) : Object :=
  let parameters := (shape.fields.filter fun (_, f) => f.role ≠ .ofClass && f.inConstructor).map
    fun (name, f) =>
      let type := match m.asText? f.type, f.type with
        | some s, _ => Text.quote s
        | none, .cls c => m.classSpelling c
        | none, o => m.spelling o
      name ++ ": " ++ type ++ if f.hasFactory then " = <factory>" else if f.hasDefault then " = None"
        else ""
  .text (m.nameOf c ++ "(" ++ ", ".intercalate parameters ++ ")")

/-- The class that a class inherits its layout from, or else its first base. -/
def baseOf (m : Memory) (c : ClassId) : ClassId :=
  let bases : List ClassId := match c with
    | .program index => ((m.class? index).map fun o => o.bases).getD []
    | .library l => (l.line.tail.take 1).map ClassId.library
  ((bases.find? fun b => (m.line b).any m.hasLayout).or bases.head?).getD .everything

/-- The classes that a class inherits from directly. -/
def basesOf (m : Memory) (c : ClassId) : List ClassId :=
  let bases : List ClassId := match c with
    | .program index => ((m.class? index).map (·.bases)).getD []
    | .library l => (l.line.tail.take 1).map ClassId.library
  if bases.isEmpty && c ≠ .everything then [.everything] else bases

/-- The types of a class's annotated names, as a table. -/
def annotationTable (c : ClassObject) : Object :=
  .table (c.annotations.map fun (name, o) => .row [.text name, o])

/-- A table of things under names. -/
def tableOf (entries : List (String × Object)) : Object :=
  .table (entries.map fun (name, o) => .row [.text name, o])

/-- What a class of the program holds in addition because it is a dataclass. -/
def dataclassEntries (m : Memory) (index : Nat) (shape : DataclassShape) : List (String × Object) :=
  let id := ClassId.program index
  let place := DataclassField.placeOfHeld index
  let names := (shape.fields.filter fun (_, f) => f.role ≠ .ofClass && f.inConstructor).map (·.1)
  [("__dataclass_params__", shape.toObject (place 0)),
    ("__dataclass_fields__", tableOf (shape.fields.mapIdx fun i (name, f) =>
      (name, f.toObject (place (i + 1)) name))),
    ("__eq__", .function (m.qualifiedName id ++ ".__eq__")),
    ("__hash__", if shape.frozen then .function (m.qualifiedName id ++ ".__hash__") else .none),
    ("__match_args__", .row (names.map .text))]

/-- The places that the values of a class have and those of what it inherits from do not have, for whatever else
they are given and for those that refer to them. -/
def ownPlaces (m : Memory) (c : ClassObject) : List String :=
  let inherited := c.line.tail
  let isNew (name : String) : Bool := match c.places with
    | some names => name ∈ names
    | none => !inherited.any (Bases.holdsPlace m name)
      && (name = "__dict__" || !inherited.any (Bases.isVarying m))
  optionalPlaces.filter isNew

/-- What comes with a class beside what its body has given names to. -/
def addedEntries (m : Memory) (index : Nat) (c : ClassObject) : List (String × Object) :=
  let id := ClassId.program index
  let reader (name : String) : String × Object :=
    (name, .other "getset_descriptor" ("<attribute " ++ Text.quote name ++ " of "
      ++ Text.quote c.name ++ " objects>"))
  let doc : Object := match c.dataclass, c.tuple with
    | some shape, _ => signature m id shape
    | none, some shape => shape.signature c.name
    | none, none => .none
  let given := if c.given.isEmpty then [] else [("__orig_bases__", Object.row c.given)]
  let parameters := match c.parameters with
    | some ps => [("__parameters__", Object.row (ps.map .typeVariable))]
    | none => []
  let methods := if c.metaclass.canAwait then
      [("__abstractmethods__", Object.frozenSet (c.awaited.map .text)),
        ("_abc_impl", .other "_abc_data" "<_abc._abc_data object>")]
    else []
  given ++ (ownPlaces m c).map reader ++ [("__doc__", doc)] ++ parameters ++ methods
    ++ (match c.isProtocol with
      | some b => [("_is_protocol", .constant (.bool b))]
      | none => [])
    ++ (if (c.attributes.lookup "__eq__").isSome then [("__hash__", .none)] else [])
    ++ (c.dataclass.map (dataclassEntries m index)).getD [] ++ (c.tuple.map (·.entries)).getD []

/-- The names under which a class of the program holds something, with what it is. -/
def classEntries (m : Memory) (index : Nat) (c : ClassObject) : List (String × Object) :=
  let module : Object := if c.module = "" then .other "object" else .text c.module
  let annotations := if c.annotations.isEmpty then [] else [(typesName, annotationTable c)]
  let isMadeLater (e : String × Attribute) : Bool := match e.2 with
    | .function f => c.dataclass.isSome && (f.isGiven || (e.1 = "__init__" && !f.parameters.isEmpty))
    | _ => false
  let objects (es : List (String × Attribute)) : List (String × Object) := es.map fun (name, a) => (name, a.toObject)
  let held := setEntries (("__module__", module) :: annotations)
    (objects (c.attributes.filter (!isMadeLater ·)))
  let later := objects (c.attributes.filter isMadeLater)
  let added := (addedEntries m index c).filter fun (name, _) =>
    (held.lookup name).isNone && (later.lookup name).isNone
  let isAfter (e : String × Object) : Bool := e.1 ∈ ["__eq__", "__hash__", "__match_args__"]
  held ++ added.filter (!isAfter ·) ++ later ++ added.filter isAfter

end Run

end Mapsmith.Program
