import Mapsmith.Program.Bases
import Mapsmith.Program.Body
import Mapsmith.Program.Construction
import Mapsmith.Program.Method.Special

/-!
# Enums

What makes a class a choice between named values. An enum that has values cannot be extended. The values of
an enum can also be values of another class, if there is only one such class among its bases; each is then
made by that class from what stands in the body. A name for a value that another name stands for already is
just another name of it.
-/

namespace Mapsmith.Program

namespace Enum

/-! ### What comes before the body -/

/-- The values of a class of the program. -/
def valuesOf (m : Memory) (c : ClassId) : List (String × Object) :=
  match c with
  | .program index => ((m.class? index).map (·.values)).getD []
  | .library _ => []

/-- Has a class been made as an enum? -/
def isEnum (m : Memory) (c : ClassId) : Bool :=
  m.metaclassOf c == .enum

/-- The class whose values the values of an enum also are. -/
def valueTypeOf (m : Memory) (c : ClassId) : Option ClassId :=
  match c with
  | .program index => (m.class? index).bind (·.valueType)
  | .library _ => none

/-- Does a class make values of its own? -/
def makesValues (m : Memory) : ClassId → Bool
  | .library l => (l.holding? "__new__").isSome
  | .program index => (m.class? index).any fun c =>
    c.dataclass.isSome || (c.attributes.lookup "__new__").isSome

/-- The class that the values of an enum also are values of, as far as a base tells, in the order of what
the base inherits from. The first class that does not make values stands for the one that does. -/
def dataTypeOf (m : Memory) : Option ClassId → List ClassId → Option ClassId
  | _, [] => none
  | candidate, c :: cs =>
    if isEnum m c then (valueTypeOf m c).or (dataTypeOf m candidate cs)
    else if makesValues m c then some (candidate.getD c)
    else dataTypeOf m (some (candidate.getD c)) cs

/-- The class that the values of an enum with these bases also are values of. -/
def dataType (m : Memory) (b : Bases) : Run (Option ClassId) :=
  match (b.classes.filterMap fun c => dataTypeOf m none (m.line c)).eraseDups with
  | [] => return none
  | [c] => return some c
  | _ => Run.refuse (.other "too many data types")

/-- The enum that an enum with these bases extends. -/
def extended (m : Memory) (b : Bases) : Run ClassId := do
  if b.classes.any fun c => (m.line c).any fun a => !(valuesOf m a).isEmpty then
    Run.refuse (.other "an enum with values cannot be extended")
  match b.classes.getLast? with
  | some c =>
    if isEnum m c then return c
    else Run.refuse (.other "new enumerations should be created with an enum type")
  | none => return .library .enumeration

/-- The method that makes up values. -/
def generatorName : String := "_generate_next_value_"

/-- What the body of an enum begins with. -/
def start (module : Nat) (b : Bases) : Run (List (String × Attribute)) := do
  let m ← get
  let first ← extended m b
  let _ ← dataType m b
  let inherited := match first with
    | .program index => m.attribute? (.program index) generatorName
    | .library _ => none
  return [(generatorName, inherited.getD (.function { module }))]

/-! ### Values -/

/-- Can something be called with one argument in its place? -/
def acceptsOne (f : Function) : Bool :=
  let positional := f.parameters.filter (·.passing.byPosition)
  (!positional.isEmpty || f.parameters.any (·.passing = .rest))
    && positional.tail.all (·.hasDefault)
    && f.parameters.all fun p => p.passing ≠ .keyword || p.hasDefault

/-- Can a class be called with one argument in its place? -/
def isMadeOfOne (m : Memory) (c : ClassId) : Bool :=
  match m.nearest? c (·.tuple) with
  | some shape => !shape.fields.isEmpty && shape.fields.tail.all (· ∈ shape.optional)
  | none => match m.attribute? c "__init__" with
    | some (.function f) => acceptsOne f
    | some _ => false
    | none => true

/-- The classes of the language whose values are empty until they are given what they hold. -/
def filledLater : List LibraryClass :=
  ["list", "set", "dict", "bytearray"].map .builtin

/-- What a class of the library makes from what stands in the body. -/
def madeBy (ev : Evaluator) (s : Scope) (l : LibraryClass) (o : Object) : Run Object := do
  let given : Arguments := match o with
    | .row items => .ofItems items
    | o => .ofItems [o]
  let given := if l = .tuple then .ofItems [.row given.inPlace] else given
  tryCatch (Run.construct ev s l given) fun e =>
    if l ∈ filledLater then Run.refuse (.other "_value_ not set in __new__, unable to create it")
    else throw e

/-- The value that the class of an enum's values makes from what stands in the body. -/
def made (ev : Evaluator) (s : Scope) (type : Option ClassId) (o : Object) : Run Object := do
  let m ← get
  match type with
  | none => return o
  | some c => match m.nearest? c (·.tuple), Run.layoutOf? m c with
    | none, some l => madeBy ev s l o
    | _, _ =>
      if isMadeOfOne m c then return o
      Run.refuse (.other "_value_ not set in __new__, unable to create it")

/-- The values of an enum, each under its first name, and the other names with these. -/
structure Values where
  /-- The values under their first names. -/
  values : List (String × Object) := []
  /-- The other names. -/
  otherNames : List (String × String) := []

/-- Adds a name with its value. -/
def Values.add (vs : Values) (name : String) (o : Object) : Values :=
  match vs.values.find? fun (_, kept) => kept.same o with
  | some (first, _) => { vs with otherNames := vs.otherNames ++ [(name, first)] }
  | none => { vs with values := vs.values ++ [(name, o)] }

/-! ### The class -/

/-- What tells how the values of an enum are shown, as far as a base tells. -/
def displayOf (m : Memory) : List ClassId → Option (Option Attribute)
  | [] => none
  | c :: cs => match c with
    | .library l =>
      if isEnum m c then some none
      else if l.isBuiltin && l.name ≠ "object" then some (some (.object (.other "slot")))
      else displayOf m cs
    | .program _ =>
      if isEnum m c then some (m.own? c "_value_repr_")
      else match m.own? c "__repr__" with
        | some a => some (some a)
        | none => displayOf m cs

/-- What comes with every enum: how its values are made and shown. -/
def ownAttributes (m : Memory) (type : Option ClassId) (b : Bases)
    (attributes : List (String × Attribute)) : List (String × Attribute) :=
  let inherited := type.bind fun c => match c with
    | .program _ => m.attribute? c "__new__"
    | .library _ => none
  let maker := (attributes.lookup "__new__").or inherited
  let shown := (b.classes.findSome? fun c => displayOf m (m.line c)).join
  [("_new_member_", maker.getD (.object (.other "builtin_function_or_method"))),
    ("_value_repr_", shown.getD (.object .none))]

/-- Checks the order that the body asks for. -/
def checkOrder (attributes : List (String × Attribute)) (vs : Values) : Run Unit := do
  match attributes.lookup "_order_" with
  | none => return
  | some a =>
    if !a.toObject.isTruthy then return
    let asked := (← EntryNames.listed a.toObject).filter fun o =>
      !o.text?.any fun name => (vs.otherNames.lookup name).isSome
    if !Object.sameAll asked (vs.values.map fun (name, _) => .text name) then
      Run.refuse (.other "member order does not match _order_")

/-- Checks that the constructor of an enum takes a value. -/
def checkConstructor (m : Memory) (index : Nat) : Run Unit :=
  match m.attribute? (.program index) "__init__" with
  | some (.function f) =>
    if acceptsOne f then return
    else Run.refuse (.other "__init__() takes another number of positional arguments")
  | some a => Run.refuse (.notCallable (m.typeName a.toObject))
  | none => return

/-- What is kept in a value of an enum. A function of the program that finds whatever a value does not have finds
nothing, and does so before anything is kept. -/
def kept (m : Memory) (index : Nat) (o : Object) : Run Object := do
  match m.nearest? (.program index) (·.attributes.lookup "__getattr__") with
  | none => return o
  | some (.function _) => return .none
  | some a => Run.refuse (.notCallable (m.typeName a.toObject))

/-- The values that stand in a body. Each is made by its class, then handed to the constructor. -/
def valuesIn (ev : Evaluator) (m : Memory) (s : Scope) (index : Nat) (type : Option ClassId)
    (attributes : List (String × Attribute)) (entries : List String) : Run Values :=
  entries.foldlM (fun vs name => do
    let o ← made ev s type (((attributes.lookup name).map (·.toObject)).getD .none)
    let o ← kept m index o
    checkConstructor m index
    return vs.add name o) {}

/-- What a body holds without the names that it forgets. -/
def remembered (b : Body) (n : EntryNames) : List (String × Attribute) :=
  b.attributes.filter fun (name, _) => name ∉ n.ignored && name ≠ "_ignore_"

/-- What the program has for making the values of an enum: something of its own, or of the enum that it extends,
or of the class whose values they also are. -/
def makerOf (m : Memory) (type : Option ClassId) (bases : Bases)
    (attributes : List (String × Attribute)) : Option Attribute :=
  let ofClass (c : ClassId) : Option Attribute := m.nearest? c (·.attributes.lookup "__new__")
  let extended := bases.classes.getLast?.filter (isEnum m)
  ((attributes.lookup "__new__").filter (!·.toObject.same .none)).or
    ((extended.bind ofClass).or (type.bind ofClass))

/-- Checks that what makes the values of an enum makes any. A function of the program yields nothing. -/
def checkMaker (maker : Option Attribute) (type : Option ClassId) : Run Unit := do
  match maker with
  | none => return
  | some (.function _) =>
    if type.isSome then Run.refuse (.other "_value_ not set in __new__, unable to create it")
    Run.noMember .none "_value_"
  | some a => Run.refuse (.notCallable ((← get).typeName a.toObject))

/-- Checks that the values of an enum can be given what is kept in them. A function of the program that looks
after that does nothing. -/
def checkAccess (m : Memory) (index : Nat) : Run Unit := do
  let held (name : String) : Option Attribute := m.nearest? (.program index) (·.attributes.lookup name)
  if (held "__getattribute__").isSome then Run.refuse (.notCallable "NoneType")
  match held "__setattr__" with
  | none => return
  | some (.function _) => throw (.noMember "_value_")
  | some a => Run.refuse (.notCallable (m.typeName a.toObject))

/-- Makes a class an enum, of a body that has been run. -/
def make (ev : Evaluator) (s : Scope) (index : Nat) (bases : Bases) (b : Body) : Run Unit := do
  let n := b.entryNames.getD {}
  let attributes := remembered b n
  if "mro" ∈ n.entries then throw .badValue
  let m ← get
  let type ← dataType m bases
  let own := ownAttributes m type bases attributes
  if !n.entries.isEmpty then
    checkMaker (makerOf m type bases attributes) type
    checkAccess m index
  if !n.entries.isEmpty && m.inherits (.program index) (.library ⟨"uuid", "UUID"⟩) then
    Run.refuse (.other "UUID objects are immutable")
  let vs ← valuesIn ev m s index type attributes n.entries
  checkOrder attributes vs
  let named (name : String) : Option Attribute :=
    if name ∈ n.entries then
      some (.object (.enumValue index ((vs.otherNames.lookup name).getD name)))
    else none
  let settled := (attributes.filter (·.1 ≠ "_order_")).map fun (name, a) =>
    (name, (named name).getD a)
  modify fun m => m.changeClass index fun c =>
    { c with
      attributes := setEntries settled own
      values := vs.values
      otherNames := vs.otherNames
      valueType := type }

end Enum

end Mapsmith.Program
